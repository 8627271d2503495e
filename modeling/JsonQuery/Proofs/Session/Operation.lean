import JsonQuery.Proofs.Query.Selection
import JsonQuery.Session.Workspace

/-!
What may be done with a workspace, as data. An operation is performed on a workspace and
answers, or breaks off with a fault; for each operation that reads data or a text one lemma
says all that can come of it. A run is any number of operations that all answered, kept by
what they answered.
-/

namespace JsonQuery

open Outcome

/-- All that can come of a query text in a session: it is answered, rejected, or breaks
off. -/
theorem Session.execute_cases (grouping : Bool) (s : Session) (text : String) :
    (∃ result, JsonQuery.execute grouping s.dataset text = .ok result ∧
      (s.execute grouping text).session = { s with queryText := text }.accept result ∧
      (s.execute grouping text).outcome = .ok (.rows result.rows)) ∨
    ∃ fault, JsonQuery.execute grouping s.dataset text = .error fault ∧
      ((fault.isRejection = true ∧
        (s.execute grouping text).session = { s with queryText := text }.reject fault.message ∧
        (s.execute grouping text).outcome = .ok (.rejected fault.message)) ∨
      (fault.isRejection = false ∧
        (s.execute grouping text).session = { s with queryText := text } ∧
        (s.execute grouping text).outcome = .error fault)) := by
  have hrun := Execution.outcome_run grouping s.dataset text
  cases hanswer : JsonQuery.execute grouping s.dataset text with
  | ok result =>
      rw [hanswer] at hrun
      refine .inl ⟨result, rfl, ?_⟩
      simp [Session.execute, hrun]
  | error fault =>
      rw [hanswer] at hrun
      refine .inr ⟨fault, rfl, ?_⟩
      cases hkind : fault.isRejection with
      | true => simp [Session.execute, hrun, hkind]
      | false => simp [Session.execute, hrun, hkind]

namespace Workspace

/-- What may be done with a workspace. Every fetch may meet another network. -/
inductive Operation where
  | load (data : Value) (url : Option String)
  | fetch (network : Network) (url : Value)
  | filter (rules : List FilterRule)
  | query (text : String)
  | reset
  | exportDisplayed (format : ExportFormat) (today : String)
  | clear

/-- What an operation answers. -/
inductive Answer where
  | loaded (dataset : Dataset)
  | fetched (result : Except FetchProblem Fetched)
  | filtered (data : Value)
  | queried (answer : QueryAnswer)
  | restored (data : Value)
  | exported (made : Export)
  | cleared

end Workspace

/-- The step with its answer seen in another way. -/
def WorkspaceStep.map {α β : Type} (f : α → β) (s : WorkspaceStep α) : WorkspaceStep β :=
  ⟨s.workspace, s.outcome.map f, s.journal⟩

theorem WorkspaceStep.map_eq_ok {α β : Type} {f : α → β} {s : WorkspaceStep α} {b : β} :
    (s.map f).outcome = .ok b ↔ ∃ a, s.outcome = .ok a ∧ f a = b := Outcome.map_eq_ok

theorem WorkspaceStep.map_eq_error {α β : Type} {f : α → β} {s : WorkspaceStep α}
    {fault : Fault} : (s.map f).outcome = .error fault ↔ s.outcome = .error fault :=
  Outcome.map_eq_error

namespace Workspace

/-- Performs an operation. -/
def operate (w : Workspace) : Operation → WorkspaceStep Answer
  | .load data url => (w.load data url).map .loaded
  | .fetch network url => (w.fetch network url).map .fetched
  | .filter rules => (w.filter rules).map .filtered
  | .query text => (w.query text).map .queried
  | .reset => w.reset.map .restored
  | .exportDisplayed format today => (w.exportDisplayed format today).map .exported
  | .clear => ⟨w.clear, .ok .cleared, []⟩

/-- The runs of a workspace from its start: operations that all answered, and what they
answered, the latest first. -/
inductive Run (settings : Settings) : List Answer → Workspace → Prop where
  | start : Run settings [] (start settings)
  | step {answers : List Answer} {w : Workspace} (run : Run settings answers w)
      {operation : Operation} {answer : Answer}
      (answered : (w.operate operation).outcome = .ok answer) :
      Run settings (answer :: answers) (w.operate operation).workspace

/-- A run may begin with data that make a dataset and come from no place. -/
theorem run_load {settings : Settings} {data : Value} {d : Dataset}
    (h : Dataset.ofValue data none = .ok d) :
    Run settings [.loaded d] { (start settings).publish (some d) with fetchError := none } := by
  have hanswer : ((start settings).operate (.load data none)).outcome = .ok (.loaded d) := by
    simp [operate, WorkspaceStep.map, load, h, Except.map]
  have hpublished : ((start settings).operate (.load data none)).workspace =
      { (start settings).publish (some d) with fetchError := none } := by
    simp only [operate, WorkspaceStep.map, load, h]
    rfl
  rw [← hpublished]
  exact Run.start.step hanswer

/-- What the filtered view of a dataset has to be: null without a dataset, what the rules
leave of an array, and other data as they were received. -/
def FilteredView (rules : List FilterRule) : Option Dataset → Value → Prop
  | none, view => view = .null
  | some d, view =>
      match d.raw with
      | .array items => ∃ kept, applyFilters items rules = .ok kept ∧ view = .array kept
      | raw => view = raw

theorem filteredView_nil (dataset : Option Dataset) :
    FilteredView [] dataset ((dataset.map Dataset.raw).getD .null) := by
  cases dataset with
  | none => rfl
  | some d =>
      obtain ⟨raw, sourceUrl, content⟩ := d
      cases raw with
      | array items => exact ⟨items, filterM_eq_self fun _ _ => rfl, rfl⟩
      | null | bool _ | number _ | string _ | object _ => rfl

variable (w : Workspace)

/-- All that can come of loading data: they make no dataset, or they are published, and then
the place they came from is remembered or cannot be. -/
theorem load_cases (data : Value) (url : Option String) :
    (∃ fault, (w.load data url).workspace = w ∧ (w.load data url).outcome = .error fault) ∨
    ∃ d, Dataset.ofValue data url = .ok d ∧
      let published := { w.publish (some d) with fetchError := none }
      ((∃ history, (w.load data url).workspace = { published with history := history } ∧
        (w.load data url).outcome = .ok d) ∨
      ∃ fault place, remember w.settings.fetch.historySize w.history place = .error fault ∧
        (w.load data url).workspace = published ∧
        (w.load data url).outcome = .error fault) := by
  unfold load
  cases Dataset.ofValue data url with
  | error fault => exact .inl ⟨fault, rfl, rfl⟩
  | ok d =>
      refine .inr ⟨d, rfl, ?_⟩
      dsimp only
      split
      next fault hremember =>
        refine .inr ⟨fault, ?_⟩
        split at hremember
        · nomatch hremember
        · nomatch hremember
        · exact ⟨_, hremember, rfl, rfl⟩
      next history _ => exact .inl ⟨history, rfl, rfl⟩

/-- All that can come of fetching: it breaks off, there is a problem, or data come and are
loaded. -/
theorem fetch_cases (network : Network) (url : Value) :
    (∃ fault, (w.fetch network url).workspace = w ∧
      (w.fetch network url).outcome = .error fault) ∨
    (∃ problem : FetchProblem,
      (w.fetch network url).workspace =
        { w.publish none with fetchError := some problem.message } ∧
      (w.fetch network url).outcome = .ok (.error problem)) ∨
    ∃ (result : Fetched) (place : Option String),
      (JsonQuery.fetch w.settings.fetch network url).outcome = .ok (.ok result) ∧
      (w.fetch network url).workspace = (w.load result.data place).workspace ∧
      (w.fetch network url).outcome =
        (w.load result.data place).outcome.map fun _ => .ok result := by
  unfold fetch
  dsimp only
  cases (JsonQuery.fetch w.settings.fetch network url).outcome with
  | error fault => exact .inl ⟨fault, rfl, rfl⟩
  | ok answer =>
      cases answer with
      | error problem => exact .inr (.inl ⟨problem, rfl, rfl⟩)
      | ok result => exact .inr (.inr ⟨result, _, rfl, rfl, rfl⟩)

/-- All that can come of filtering: the rules are kept, and they make a view of the data, or
nothing happens without data, or a rule cannot be tried. -/
theorem filter_cases (rules : List FilterRule) :
    (∃ fault, (w.filter rules).workspace = { w with filters := rules } ∧
      (w.filter rules).outcome = .error fault) ∨
    (w.dataset = none ∧ (w.filter rules).workspace = { w with filters := rules } ∧
      (w.filter rules).outcome = .ok .null) ∨
    ∃ view, FilteredView rules w.dataset view ∧
      (w.filter rules).workspace = { w with filters := rules, filtered := view } ∧
      (w.filter rules).outcome = .ok view := by
  unfold filter
  cases w.dataset with
  | none => exact .inr (.inl ⟨rfl, rfl, rfl⟩)
  | some d =>
      obtain ⟨raw, sourceUrl, content⟩ := d
      cases raw with
      | array items =>
          cases hkept : applyFilters items rules with
          | error fault => exact .inl ⟨fault, by simp [hkept], by simp [hkept]⟩
          | ok kept =>
              refine .inr (.inr ⟨.array kept, ⟨kept, hkept, rfl⟩, ?_, ?_⟩)
              · simp [hkept]
              · simp [hkept]
      | null | bool _ | number _ | string _ | object _ => exact .inr (.inr ⟨_, rfl, rfl, rfl⟩)

/-- All that can come of a query text: it is answered, rejected, or breaks off, by what comes
of running it over the dataset of the session. -/
theorem query_cases (text : String) :
    (∃ result,
      execute w.settings.query.enableAggregates.isGiven w.session.dataset text = .ok result ∧
      (w.query text).workspace =
        { w with session := { w.session with queryText := text }.accept result } ∧
      (w.query text).outcome = .ok (.rows result.rows)) ∨
    ∃ fault,
      execute w.settings.query.enableAggregates.isGiven w.session.dataset text = .error fault ∧
      ((fault.isRejection = true ∧
        (w.query text).workspace =
          { w with session := { w.session with queryText := text }.reject fault.message } ∧
        (w.query text).outcome = .ok (.rejected fault.message)) ∨
      (fault.isRejection = false ∧
        (w.query text).workspace = { w with session := { w.session with queryText := text } } ∧
        (w.query text).outcome = .error fault)) := by
  have hworkspace {session : Session}
      (h : (w.session.execute w.settings.query.enableAggregates.isGiven text).session = session) :
      (w.query text).workspace = { w with session := session } := by
    rw [← h]
    rfl
  obtain ⟨result, hresult, hsession, houtcome⟩ |
      ⟨fault, hfault, ⟨hkind, hsession, houtcome⟩ | ⟨hkind, hsession, houtcome⟩⟩ :=
    w.session.execute_cases w.settings.query.enableAggregates.isGiven text
  · exact .inl ⟨result, hresult, hworkspace hsession, houtcome⟩
  · exact .inr ⟨fault, hfault, .inl ⟨hkind, hworkspace hsession, houtcome⟩⟩
  · exact .inr ⟨fault, hfault, .inr ⟨hkind, hworkspace hsession, houtcome⟩⟩

theorem exportDisplayed_workspace (format : ExportFormat) (today : String) :
    (w.exportDisplayed format today).workspace = w := by
  unfold exportDisplayed
  split
  · rfl
  · rfl

end Workspace

end JsonQuery
