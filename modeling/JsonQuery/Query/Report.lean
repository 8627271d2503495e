import JsonQuery.Log.Entry
import JsonQuery.Query.Printer
import JsonQuery.Query.Run

/-!
Running a query text with reports on what happens: the query as it was understood, what
it had to do without, and how many rows it answers.
-/

namespace JsonQuery

/-- A run of a query text: its reports, and its result or why there is none. -/
structure Execution where
  journal : Journal
  outcome : Except Fault QueryResult

/-- What is reported of a query that was understood. -/
def Query.report (q : Query) : LogEntry :=
  .plain .debug .parser ("Parsed query: " ++ q.describe)

/-- What is reported of a result: each warning, and the number of rows out of how many. -/
def QueryResult.report (r : QueryResult) (available : Nat) : Journal :=
  r.warnings.map (fun w => .plain .warning .execution ("Query degraded: " ++ w.message)) ++
    [.plain .info .execution
      s!"Query returned {r.rows.length} of {available} rows"]

/-- The run of a query text over a dataset that may be missing. -/
def Execution.run (grouping : Bool) (dataset : Option Dataset) (text : String) : Execution :=
  match requireRows dataset with
  | .error fault => ⟨[], .error fault⟩
  | .ok rows =>
      match Query.parse text with
      | .error fault => ⟨[], .error fault⟩
      | .ok query =>
          match query.run grouping rows with
          | .error fault => ⟨[query.report], .error fault⟩
          | .ok result => ⟨query.report :: result.report rows.length, .ok result⟩

/-- Reporting does not change the result. -/
theorem Execution.outcome_run (grouping : Bool) (dataset : Option Dataset) (text : String) :
    (Execution.run grouping dataset text).outcome = execute grouping dataset text := by
  unfold Execution.run execute
  cases requireRows dataset with
  | error fault => rfl
  | ok rows =>
      cases hq : Query.parse text with
      | error fault => simp [bind, Except.bind]
      | ok query =>
          cases hr : query.run grouping rows with
          | error fault => simp [hr, bind, Except.bind]
          | ok result => simp [hr, bind, Except.bind]

end JsonQuery
