import JsonQuery.Export.Basic
import JsonQuery.Fetch.Basic
import JsonQuery.Filter.Basic
import JsonQuery.Session.Basic
import JsonQuery.Session.History

/-!
A workspace: the data at hand, a filtered view of it, a query session over it, and a
history of where data came from. Publishing data replaces dataset, view and session
together, so the three always describe the same data.
-/

namespace JsonQuery

/-- The state of a workspace. -/
structure Workspace where
  settings : Settings
  dataset : Option Dataset
  session : Session
  filters : List FilterRule
  filtered : Value
  history : List Endpoint
  fetchError : Option String

/-- What came of an operation on a workspace. The workspace is also answered when the
operation broke off with a fault. -/
structure WorkspaceStep (α : Type) where
  workspace : Workspace
  outcome : Except Fault α
  journal : Journal

/-- What is reported of a dataset that was read. -/
def Dataset.report (d : Dataset) : LogEntry :=
  let origin := match d.sourceUrl with
    | none | some "" => "memory"
    | some url => url
  let columns := (d.schema?.map List.length).getD 0
  .plain .info .dataset
    s!"Loaded dataset from {origin}: {d.rows.length} rows, {columns} columns"

/-- What is reported of an export. -/
def Export.report (e : Export) : LogEntry :=
  .plain .info .exports s!"Exported {e.filename} ({e.payload.sizeText} bytes)"

namespace Workspace

/-- The workspace that begins without data. -/
def start (settings : Settings) : Workspace :=
  ⟨settings, none, Session.start none, [], .null, [], none⟩

/-- The data on display: the result of the query, if there is one, and otherwise the
filtered view. -/
def displayed (w : Workspace) : Value :=
  if w.session.isActive then w.session.displayed else w.filtered

/-- The workspace after a dataset, or none, took the place of its own. -/
def publish (w : Workspace) (dataset : Option Dataset) : Workspace :=
  { w with
    dataset := dataset, session := w.session.load dataset, filters := [],
    filtered := (dataset.map Dataset.raw).getD .null }

/-- Publishes data and remembers where it came from. -/
def load (w : Workspace) (data : Value) (url : Option String) : WorkspaceStep Dataset :=
  match Dataset.ofValue data url with
  | .error fault => ⟨w, .error fault, []⟩
  | .ok dataset =>
      let published := { w.publish (some dataset) with fetchError := none }
      let remembered : Except Fault (List Endpoint) := match url with
        | none | some "" => .ok w.history
        | some place => remember w.settings.fetch.historySize w.history place
      match remembered with
      | .error fault => ⟨published, .error fault, [dataset.report]⟩
      | .ok history =>
          let context := givenContext [
            ("source_url", (url.map Value.string).getD .null),
            ("records", Value.ofInt dataset.size)]
          let report : LogEntry := ⟨.info, .workspace, "Workspace loaded new data", context⟩
          ⟨{ published with history := history }, .ok dataset, [dataset.report, report]⟩

/-- Publishes the data of a URL. When there is none, no data remains. -/
def fetch (w : Workspace) (network : Network) (url : Value) :
    WorkspaceStep (Except FetchProblem Fetched) :=
  let fetched := JsonQuery.fetch w.settings.fetch network url
  match fetched.outcome with
  | .error fault => ⟨w, .error fault, fetched.journal⟩
  | .ok (.error problem) =>
      let report := LogEntry.plain .warning .workspace
        ("Fetch failed, clearing workspace: " ++ problem.message)
      ⟨{ w.publish none with fetchError := some problem.message }, .ok (.error problem),
        fetched.journal ++ [report]⟩
  | .ok (.ok result) =>
      let place := match url with
        | .string text => some text
        | _ => none
      let loaded := w.load result.data place
      ⟨loaded.workspace, loaded.outcome.map fun _ => .ok result,
        fetched.journal ++ loaded.journal⟩

/-- Filters the data; only arrays can be filtered. -/
def filter (w : Workspace) (rules : List FilterRule) : WorkspaceStep Value :=
  let asked := { w with filters := rules }
  match w.dataset with
  | none => ⟨asked, .ok .null, []⟩
  | some dataset =>
      match dataset.raw with
      | .array items =>
          match applyFilters items rules with
          | .error fault => ⟨asked, .error fault, []⟩
          | .ok kept => ⟨{ asked with filtered := .array kept }, .ok (.array kept), []⟩
      | raw => ⟨{ asked with filtered := raw }, .ok raw, []⟩

/-- Runs a query text in the session. -/
def query (w : Workspace) (text : String) : WorkspaceStep QueryAnswer :=
  let step := w.session.execute w.settings.query.enableAggregates.isGiven text
  ⟨{ w with session := step.session }, step.outcome, step.journal⟩

/-- Resets the session. -/
def reset (w : Workspace) : WorkspaceStep Value :=
  let step := w.session.reset
  ⟨{ w with session := step.session }, step.outcome, step.journal⟩

/-- Exports the data on display. -/
def exportDisplayed (w : Workspace) (format : ExportFormat) (today : String) :
    WorkspaceStep Export :=
  match exportData format w.settings.exports today w.displayed with
  | .error fault => ⟨w, .error fault, []⟩
  | .ok made => ⟨w, .ok made, [made.report]⟩

/-- Drops the data and everything that describes it. -/
def clear (w : Workspace) : Workspace := { w.publish none with fetchError := none }

end Workspace

end JsonQuery
