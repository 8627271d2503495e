import JsonQuery.Proofs.Session.Operation

/-!
Coherence of a workspace. Dataset, filtered view and session describe the same data after
every run, whatever its operations and their order, and what is displayed is settled by the
answers of the run: the rows of the latest query since the data were published or the session
was reset, and the filtered view when there was no such query.
-/

namespace JsonQuery.Workspace

open Outcome

/-- The rows of the latest query that was answered since data were published or the session
was reset, if there was one. -/
def latestRows : List Answer → Option (List Record)
  | [] => none
  | .queried (.rows rows) :: _ => some rows
  | .queried (.rejected _) :: earlier => latestRows earlier
  | .filtered _ :: earlier => latestRows earlier
  | .exported _ :: earlier => latestRows earlier
  | .loaded _ :: _ | .fetched _ :: _ | .restored _ :: _ | .cleared :: _ => none

/-- A workspace whose parts describe the same data, with the rows of a query on display or
none. A problem with fetching is remembered only while there is no dataset. -/
structure Coherent (shown : Option (List Record)) (w : Workspace) : Prop where
  sameDataset : w.session.dataset = w.dataset
  view : FilteredView w.filters w.dataset w.filtered
  active : w.session.isActive = shown.isSome
  rowsDisplayed : ∀ rows ∈ shown, w.session.displayed = rowsValue rows
  queryable : shown.isSome = true → ∃ d, w.dataset = some d ∧ d.isQueryable = true
  failed : w.fetchError.isSome = true → w.dataset = none

variable {settings : Settings} {answers : List Answer} {shown : Option (List Record)}
  {w : Workspace}

/-- Whatever was published before, a dataset that is published is all there is to see. -/
theorem coherent_publish (w : Workspace) {dataset : Option Dataset} {history : List Endpoint}
    {fetchError : Option String} (hfailed : fetchError.isSome = true → dataset = none) :
    Coherent none { w.publish dataset with history := history, fetchError := fetchError } where
  sameDataset := rfl
  view := filteredView_nil dataset
  active := rfl
  rowsDisplayed _ hrows := nomatch hrows
  queryable hshown := nomatch hshown
  failed := hfailed

theorem coherent_start (settings : Settings) : Coherent none (start settings) where
  sameDataset := rfl
  view := rfl
  active := rfl
  rowsDisplayed _ hrows := nomatch hrows
  queryable hshown := nomatch hshown
  failed hfailed := nomatch hfailed

theorem coherent_load {data : Value} {url : Option String} {d : Dataset}
    (hanswer : (w.load data url).outcome = .ok d) :
    Coherent none (w.load data url).workspace := by
  obtain ⟨fault, -, hfault⟩ | ⟨d, -, ⟨history, hload, -⟩ | ⟨fault, _, -, -, hfault⟩⟩ :=
    w.load_cases data url
  · nomatch hanswer.symm.trans hfault
  · rw [hload]
    exact coherent_publish w nofun
  · nomatch hanswer.symm.trans hfault

theorem coherent_fetch {network : Network} {url : Value} {result : Except FetchProblem Fetched}
    (hanswer : (w.fetch network url).outcome = .ok result) :
    Coherent none (w.fetch network url).workspace := by
  obtain ⟨fault, -, hfault⟩ | ⟨problem, hfetch, -⟩ | ⟨result, place, -, hfetch, hload⟩ :=
    w.fetch_cases network url
  · nomatch hanswer.symm.trans hfault
  · rw [hfetch]
    exact coherent_publish w fun _ => rfl
  · rw [hfetch]
    obtain ⟨d, hd, -⟩ := map_eq_ok.mp (hload.symm.trans hanswer)
    exact coherent_load hd

namespace Coherent

theorem displayed_eq (h : Coherent shown w) :
    w.displayed = shown.elim w.filtered rowsValue := by
  unfold displayed
  rw [h.active]
  cases hshown : shown with
  | none => rfl
  | some rows => exact h.rowsDisplayed rows hshown

/-- Without a dataset there is nothing to see and nothing to query. -/
theorem eq_null_of_none (h : Coherent shown w) (hnone : w.dataset = none) :
    w.displayed = .null ∧ w.session.isAvailable = false := by
  have hfiltered : w.filtered = .null := by
    have hview := h.view
    rw [hnone] at hview
    exact hview
  constructor
  · cases hshown : shown with
    | none =>
        rw [h.displayed_eq, hshown]
        exact hfiltered
    | some rows =>
        obtain ⟨d, hd, -⟩ := h.queryable (by rw [hshown]; rfl)
        nomatch hnone.symm.trans hd
  · rw [Session.isAvailable, h.sameDataset, hnone]
    rfl

theorem filter {rules : List FilterRule} {data : Value} (h : Coherent shown w)
    (hanswer : (w.filter rules).outcome = .ok data) :
    Coherent shown (w.filter rules).workspace := by
  obtain ⟨fault, -, hfault⟩ | ⟨hnone, hfilter, -⟩ | ⟨view, hview, hfilter, -⟩ :=
    w.filter_cases rules
  · nomatch hanswer.symm.trans hfault
  · -- without a dataset the view stays null, whatever the rules are
    have hview : FilteredView rules w.dataset w.filtered := by
      have hview := h.view
      rw [hnone] at hview ⊢
      exact hview
    rw [hfilter]
    exact { h with view := hview }
  · rw [hfilter]
    exact { h with view := hview }

/-- A query that is answered has a dataset to query, and its rows come on display. One that
is rejected leaves the display as it is. -/
theorem query {text : String} {answer : QueryAnswer} (h : Coherent (latestRows answers) w)
    (hanswer : (w.query text).outcome = .ok answer) :
    Coherent (latestRows (.queried answer :: answers)) (w.query text).workspace := by
  obtain ⟨result, hresult, hquery, houtcome⟩ |
      ⟨fault, -, ⟨-, hquery, houtcome⟩ | ⟨-, -, hfault⟩⟩ := w.query_cases text
  · obtain rfl := Except.ok.inj (hanswer.symm.trans houtcome)
    obtain ⟨rows, hrows, -⟩ := bind_eq_ok.mp hresult
    obtain ⟨d, hd, hcontent⟩ := requireRows_eq_ok.mp hrows
    rw [hquery]
    refine { h with active := rfl, rowsDisplayed := ?_, queryable := ?_ }
    · rintro _ ⟨⟩
      rfl
    · -- the rows were those of the dataset of the session, which is that of the workspace
      refine fun _ => ⟨d, h.sameDataset ▸ hd, ?_⟩
      rw [Dataset.isQueryable, hcontent]
      rfl
  · obtain rfl := Except.ok.inj (hanswer.symm.trans houtcome)
    rw [hquery]
    exact { h with }
  · nomatch hanswer.symm.trans hfault

theorem reset (h : Coherent shown w) : Coherent none w.reset.workspace where
  sameDataset := h.sameDataset
  view := h.view
  active := rfl
  rowsDisplayed _ hrows := nomatch hrows
  queryable hshown := nomatch hshown
  failed := h.failed

/-- Every operation that answers keeps a workspace coherent, with its answer put before the
earlier ones. -/
theorem operate {operation : Operation} {answer : Answer} (h : Coherent (latestRows answers) w)
    (hanswer : (w.operate operation).outcome = .ok answer) :
    Coherent (latestRows (answer :: answers)) (w.operate operation).workspace := by
  cases operation with
  | load data url =>
      obtain ⟨d, hd, rfl⟩ := WorkspaceStep.map_eq_ok.mp hanswer
      exact coherent_load hd
  | fetch network url =>
      obtain ⟨result, hresult, rfl⟩ := WorkspaceStep.map_eq_ok.mp hanswer
      exact coherent_fetch hresult
  | filter rules =>
      obtain ⟨data, hdata, rfl⟩ := WorkspaceStep.map_eq_ok.mp hanswer
      exact h.filter hdata
  | query text =>
      obtain ⟨answered, hanswered, rfl⟩ := WorkspaceStep.map_eq_ok.mp hanswer
      exact h.query hanswered
  | reset =>
      obtain ⟨data, -, rfl⟩ := WorkspaceStep.map_eq_ok.mp hanswer
      exact h.reset
  | exportDisplayed format today =>
      obtain ⟨made, hmade, rfl⟩ := WorkspaceStep.map_eq_ok.mp hanswer
      rw [← w.exportDisplayed_workspace format today] at h
      exact h
  | clear =>
      obtain rfl := Except.ok.inj hanswer
      exact coherent_publish w nofun

end Coherent

-- The invariant is indexed by the answers, the latest first, so the induction on the run is also
-- one on what it answered.
theorem Run.coherent (h : Run settings answers w) : Coherent (latestRows answers) w := by
  induction h with
  | start => exact coherent_start settings
  | step _ hanswer ih => exact ih.operate hanswer

/-- After every run, the session is over the dataset of the workspace, the filtered view is
that of the dataset under the rules, what is displayed are the rows of the latest query or
else the view, only a dataset that can be queried has a query on display, and after a fetch
with a problem there is nothing to see and nothing to query. -/
theorem coherent_of_run (h : Run settings answers w) :
    w.session.dataset = w.dataset ∧
    FilteredView w.filters w.dataset w.filtered ∧
    w.displayed = (latestRows answers).elim w.filtered rowsValue ∧
    (w.session.isActive = true → ∃ d, w.dataset = some d ∧ d.isQueryable = true) ∧
    ∀ problem, w.fetchError = some problem →
      w.dataset = none ∧ w.displayed = .null ∧ w.session.isAvailable = false := by
  have hcoherent := h.coherent
  refine ⟨hcoherent.sameDataset, hcoherent.view, hcoherent.displayed_eq, ?_, ?_⟩
  · intro hactive
    rw [hcoherent.active] at hactive
    exact hcoherent.queryable hactive
  · intro problem hproblem
    have hnone := hcoherent.failed (by rw [hproblem]; rfl)
    exact ⟨hnone, hcoherent.eq_null_of_none hnone⟩

/-- A query is answered over two records, and a filter behind it changes the view and not the
display. -/
theorem coherent_of_run_filter_behind_query :
    let items : List Value := [.object [("a", .string "x")], .object [("a", .string "y")]]
    let d : Dataset := ⟨.array items, none, .ok [[("a", .string "x")], [("a", .string "y")]]⟩
    let loaded : Workspace := { (start .default).publish (some d) with fetchError := none }
    let text := "SELECT * FROM data ORDER BY a DESC LIMIT 1"
    let rows : List Record := [[("a", .string "y")]]
    let rule : FilterRule := ⟨"a", .equals, "x"⟩
    let queried := (loaded.operate (.query text)).workspace
    let filtered := (queried.operate (.filter [rule])).workspace
    ∃ answers, Run .default answers filtered ∧ latestRows answers = some rows ∧
      filtered.filters = [rule] ∧
      FilteredView filtered.filters filtered.dataset filtered.filtered ∧
      filtered.displayed = rowsValue rows := by
  intro items d loaded text rows rule queried filtered
  let q : Query := { text := text, projection := .everything, source := some "data"
                     condition := none, grouping := [], order := some ⟨"a", .descending⟩
                     limit := some 1, warnings := [] }
  let kept : List Value := [.object [("a", .string "x")]]
  have hd : Dataset.ofValue (.array items) none = .ok d := by cbv
  have hload : Run .default [.loaded d] loaded := run_load hd
  have hparse : Query.parse text = .ok q := by
    apply toOption_eq_some.mp
    decide +kernel
  have hexecute : execute false (some d) text = .ok ⟨rows, []⟩ := by
    rw [execute, hparse]
    cbv
  have hquery : (loaded.operate (.query text)).outcome = .ok (.queried (.rows rows)) ∧
      queried.dataset = some d := by
    obtain ⟨result, hresult, hworkspace, houtcome⟩ | ⟨fault, hfault, -⟩ := loaded.query_cases text
    · obtain rfl := Except.ok.inj (hexecute.symm.trans hresult)
      exact ⟨WorkspaceStep.map_eq_ok.mpr ⟨_, houtcome, rfl⟩,
        congrArg Workspace.dataset hworkspace⟩
    · cases hexecute.symm.trans hfault
  have hkept : applyFilters items [rule] = .ok kept := by cbv
  have hfilter : (queried.operate (.filter [rule])).outcome = .ok (.filtered (.array kept)) ∧
      filtered.filters = [rule] := by
    simp [filtered, operate, WorkspaceStep.map, filter, hquery.2, d, hkept, Except.map]
  have hrun : Run .default [.filtered (.array kept), .queried (.rows rows), .loaded d] filtered :=
    (hload.step hquery.1).step hfilter.1
  obtain ⟨-, hview, hdisplayed, -⟩ := coherent_of_run hrun
  exact ⟨_, hrun, rfl, hfilter.2, hview, hdisplayed⟩

end JsonQuery.Workspace
