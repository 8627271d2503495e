import JsonQuery.Value.Basic

/-!
What the parts of the program report while they work. An operation answers its reports
in the order in which they were made; how they are written down is decided elsewhere.
-/

namespace JsonQuery

/-- How grave a report is. -/
inductive LogLevel where
  | debug
  | info
  | warning
  | error
  | critical
  deriving DecidableEq, Repr

namespace LogLevel

/-- The name of a level. -/
def name : LogLevel → String
  | .debug => "DEBUG"
  | .info => "INFO"
  | .warning => "WARNING"
  | .error => "ERROR"
  | .critical => "CRITICAL"

/-- The rank of a level; graver ones are higher. -/
def rank : LogLevel → Nat
  | .debug => 10
  | .info => 20
  | .warning => 30
  | .error => 40
  | .critical => 50

/-- The levels in ascending order. -/
def all : List LogLevel := [.debug, .info, .warning, .error, .critical]

end LogLevel

/-- The part of the program that makes a report. -/
inductive LogSource where
  | requests
  | dataset
  | parser
  | execution
  | session
  | workspace
  | exports
  deriving DecidableEq, Repr

/-- The name of the log that a part reports to. -/
def LogSource.name : LogSource → String
  | .requests => "requests"
  | .dataset => "dataset"
  | .parser => "parser"
  | .execution => "execution"
  | .session => "session"
  | .workspace => "workspace"
  | .exports => "exports"

/-- A report. -/
structure LogEntry where
  level : LogLevel
  source : LogSource
  message : String
  context : Record

/-- Reports in the order in which they were made. -/
abbrev Journal := List LogEntry

/-- A report without context. -/
def LogEntry.plain (level : LogLevel) (source : LogSource) (message : String) : LogEntry :=
  ⟨level, source, message, []⟩

/-- The members of a context that have a value. -/
def givenContext (context : Record) : Record := context.filter fun m => !m.2.isNull

end JsonQuery
