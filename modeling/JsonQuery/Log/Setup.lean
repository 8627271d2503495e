import JsonQuery.Config.Settings
import JsonQuery.Log.Record
import JsonQuery.Text.Case

/-!
How a log is kept: from which level on, in which layout, and in which file besides the
console. Libraries that report every request are heard only from warnings on.
-/

namespace JsonQuery

/-- How records are laid out. -/
inductive LogLayout where
  | structured
  | readable
  deriving DecidableEq, Repr

/-- The line of a record in a layout. -/
def LogLayout.line? : LogLayout → LogRecord → Option String
  | .structured, r => r.structuredLine?
  | .readable, r => r.readableLine?

/-- How a log is kept. -/
structure LogSetup where
  /-- The rank of the least level that is heard. -/
  threshold : Nat
  layout : LogLayout
  /-- The file that lines are added to. -/
  file : Option String
  deriving DecidableEq, Repr

/-- The names of levels and the ranks they stand for. -/
def levelRanks : List (String × Nat) :=
  [("CRITICAL", 50), ("FATAL", 50), ("ERROR", 40), ("WARN", 30), ("WARNING", 30), ("INFO", 20),
    ("DEBUG", 10), ("NOTSET", 0)]

/-- The word in place of a level that stands for the layout of plain lines, and that
layout. -/
def basicFormat : String × String := ("BASIC_FORMAT", "%(levelname)s:%(name)s:%(message)s")

/-- The rank of a level by its name in any case of letters. Unknown names stand for the
level of plain reports. -/
def rankOfLevel (level : Value) : Except Fault Nat :=
  match level with
  | .string text =>
      let name := Text.upper text
      if name == basicFormat.1 then .error (.unknownLevel basicFormat.2)
      else .ok ((levelRanks.lookup name).getD LogLevel.info.rank)
  | v => .error (.levelNotText v.kindWord)

/-- The path of a log file, if the setting gives one. -/
def logFileOf (setting : Value) : Except Fault (Option String) :=
  if setting.isGiven then
    match setting with
    | .string path => .ok (some path)
    | v => .error (.wrongKind ("expected str, bytes or os.PathLike object, not " ++ v.kindWord))
  else .ok none

namespace LogSetup

/-- How the settings want the log to be kept. -/
def ofSettings (s : LogSettings) : Except Fault LogSetup := do
  let threshold ← rankOfLevel s.level
  let layout := if s.structured.isGiven then LogLayout.structured else .readable
  return ⟨threshold, layout, ← logFileOf s.logFile⟩

/-- The names of logs that report every request. -/
def noisyLoggers : List String := ["httpx", "httpcore"]

/-- The rank of the least level that is heard from a noisy log. -/
def noisyThreshold (s : LogSetup) : Nat := max s.threshold LogLevel.warning.rank

/-- Whether a log is noisy, or a part of one that is. -/
def isNoisy (logger : String) : Bool :=
  noisyLoggers.any fun name =>
    logger == name || Text.startsWith (name ++ ".").toList logger.toList

/-- Whether a record is heard. -/
def hears (s : LogSetup) (r : LogRecord) : Bool :=
  (if isNoisy r.logger then s.noisyThreshold else s.threshold) ≤ r.level.rank

/-- The lines of the records that are heard and can be written. -/
def lines (s : LogSetup) (records : List LogRecord) : List String :=
  (records.filter s.hears).filterMap s.layout.line?

/-- What is written for some records: each line with a line feed behind it. -/
def output (s : LogSetup) (records : List LogRecord) : String :=
  String.join ((s.lines records).map (· ++ "\n"))

end LogSetup

end JsonQuery
