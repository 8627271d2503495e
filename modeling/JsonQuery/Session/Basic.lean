import JsonQuery.Console.Listing
import JsonQuery.Query.Report

/-!
A query session over one dataset: the last query text with its result or its rejection,
and the data on display. A query that is rejected leaves the display as it is; a reset
brings back the data as it was received.
-/

namespace JsonQuery

/-- The state of a session. -/
structure Session where
  dataset : Option Dataset
  queryText : String
  lastError : Option String
  /-- The rows of the last query, or the data of the dataset when none was run. -/
  lastResult : Option Value
  displayed : Value
  warnings : List Warning
  /-- Whether the result of a query is on display. -/
  isActive : Bool

/-- Data that came on display, with the text of the query it answers. -/
structure Showing where
  data : Value
  queryText : String

/-- The answer to a query text: rows, or why it was rejected. -/
inductive QueryAnswer where
  | rows (rows : List Record)
  | rejected (message : String)

/-- What came of an operation on a session. The session is also answered when the
operation broke off with a fault. -/
structure SessionStep (α : Type) where
  session : Session
  outcome : Except Fault α
  showing : Option Showing
  journal : Journal

/-- Rows as one value. -/
def rowsValue (rows : List Record) : Value := .array (rows.map .object)

/-- Whether a fault is a rejection of the query rather than a failure of the run. -/
def Fault.isRejection : Fault → Bool
  | .emptyQuery | .notSelection | .noData _ => true
  | _ => false

namespace Session

/-- The session that begins with a dataset. -/
def start (dataset : Option Dataset) : Session :=
  let raw? := dataset.map Dataset.raw
  ⟨dataset, "", none, raw?, raw?.getD .null, [], false⟩

/-- The session after another dataset took the place of its own. -/
def load (_ : Session) (dataset : Option Dataset) : Session := start dataset

/-- Whether there is something to query. -/
def isAvailable (s : Session) : Bool := s.dataset.any Dataset.isQueryable

/-- Why there is nothing to query. -/
def reason? (s : Session) : Option Unavailable :=
  match s.dataset with
  | none => some .noDataset
  | some d => d.reason?

/-- The columns of the rows, if there are any. -/
def schema? (s : Session) : Option Schema := s.dataset.bind Dataset.schema?

/-- The sample queries for the dataset. -/
def samples (s : Session) : List SampleQuery := (s.dataset.map Dataset.samples).getD []

/-- The session after a query was rejected. -/
def reject (s : Session) (message : String) : Session :=
  { s with lastError := some message, lastResult := none, warnings := [] }

/-- The session after a query was answered. -/
def accept (s : Session) (result : QueryResult) : Session :=
  { s with
    lastError := none, lastResult := some (rowsValue result.rows),
    displayed := rowsValue result.rows, warnings := result.warnings, isActive := true }

/-- Runs a query text. Whatever comes of it, the text is kept; the rest of the session
changes only when the query was answered or rejected. -/
def execute (grouping : Bool) (s : Session) (text : String) : SessionStep QueryAnswer :=
  let asked := { s with queryText := text }
  let run := Execution.run grouping s.dataset text
  match run.outcome with
  | .ok result =>
      ⟨asked.accept result, .ok (.rows result.rows),
        some ⟨rowsValue result.rows, text⟩, run.journal⟩
  | .error fault =>
      if fault.isRejection then
        let report : LogEntry := ⟨.info, .session, "Query rejected: " ++ fault.message,
          [("query", .string text)]⟩
        ⟨asked.reject fault.message, .ok (.rejected fault.message), none,
          run.journal ++ [report]⟩
      else ⟨asked, .error fault, none, run.journal⟩

/-- Clears the query and answers the data as it was received. -/
def reset (s : Session) : SessionStep Value :=
  let fresh := start s.dataset
  ⟨fresh, .ok fresh.displayed, some ⟨fresh.displayed, ""⟩, []⟩

/-- The session as shown in a description. -/
def describe (s : Session) : String :=
  let active := if s.isActive then "True" else "False"
  let dataset := (s.dataset.map Dataset.describe).getD "None"
  "QuerySession(active=" ++ active ++ ", dataset=" ++ dataset ++ ")"

end Session

end JsonQuery
