import JsonQuery.Log.Entry
import JsonQuery.Log.Message
import JsonQuery.Log.Moment

/-!
Records of a log and the lines they are written as: either one JSON object on each line,
or text for people to read. A record that cannot be written has no line.
-/

namespace JsonQuery

/-- The context of a record after more fields were bound to it. Fields without a value are
left out, and a field that is bound again keeps its place. -/
def bindContext (context fields : Record) : Record := context.putAll (givenContext fields)

/-- An exception that a record tells of. -/
structure LoggedException where
  kind : String
  text : String
  deriving DecidableEq, Repr

/-- How an exception is told: its kind, and its text if there is any. -/
def LoggedException.message (e : LoggedException) : String :=
  if e.text.isEmpty then e.kind else e.kind ++ ": " ++ e.text

/-- A record of a log. -/
structure LogRecord where
  /-- The name of the log that the record goes to. -/
  logger : String
  level : LogLevel
  template : String
  arguments : List Value
  context : Record
  /-- Seconds since the beginning of 1970. -/
  created : Number
  /-- The part of the program that made the record, and where in it. -/
  moduleName : String
  function : Option String
  line : Value
  exception : Option LoggedException

/-- The name of the module in a file: what follows the last slash, without the last ending.
Points at the beginning belong to the name. -/
def moduleOfPath (path : String) : String :=
  let file := (Text.cutAtLast '/' path.toList).2
  match Text.cutAtLast '.' file with
  | (some start, _) => if start.all (· == '.') then String.ofList file else String.ofList start
  | (none, _) => String.ofList file

namespace LogRecord

/-- The record of a report of the program itself. -/
def ofEntry (logger : String) (created : Number) (e : LogEntry) : LogRecord :=
  ⟨logger, e.level, e.message, [], e.context, created, logger, none, .null, none⟩

/-- The message of a record. -/
def message? (r : LogRecord) : Option String := makeMessage? r.template r.arguments

/-- The members of a record in order, before its context is written over them. -/
def standardMembers (r : LogRecord) (timestamp message : String) : Record :=
  [("timestamp", .string timestamp), ("level", .string r.level.name),
    ("logger", .string r.logger), ("message", .string message),
    ("module", .string r.moduleName),
    ("function", (r.function.map Value.string).getD .null), ("line", r.line)] ++
    r.exception.toList.map fun e => ("exception", Value.string e.message)

/-- The line of a record as a JSON object in ASCII. -/
def structuredLine? (r : LogRecord) : Option String := do
  let timestamp ← (← Moment.nearest? r.created).isoText?
  let members := (r.standardMembers timestamp (← r.message?)).putAll r.context
  ((Value.object members).toJson .asciiLine).toOption

/-- The context behind a message: its fields in the order of their names. -/
def contextText? (context : Record) : Option String := do
  let fields ← (Text.sortTexts (Record.keys context)).mapM fun key => do
    return key ++ "=" ++ (← (Record.get context key).display.toOption)
  return if fields.isEmpty then "" else " [" ++ " ".intercalate fields ++ "]"

/-- The line of a record for people to read. An exception follows on lines of its own. -/
def readableLine? (r : LogRecord) : Option String := do
  let message ← r.message?
  let time ← (← Moment.secondAt? r.created).plainText?
  let line := " - ".intercalate [time, r.logger, r.level.name, message] ++
    (← contextText? r.context)
  match r.exception with
  | none => return line
  | some e => return line ++ (if line.toList.getLast? == some '\n' then "" else "\n") ++ e.message

end LogRecord

end JsonQuery
