import JsonQuery.Proofs.Session.Operation

/-!
What a session displays and whom it tells. Both are settled by what was done with it: the
display by the latest query that was answered since data were loaded or the query was cleared,
and what was told by all answers and clearings, in their order.
-/

namespace JsonQuery.Session

open Outcome

/-- Something that was done with a session, with what came of it. -/
inductive Deed where
  | loaded (dataset : Option Dataset)
  | queried (text : String) (answer : QueryAnswer)
  | restored (data : Value)

/-- The runs of a session that begins with a dataset: what was done, what was shown to the
listener, and the session after it. The latest stands first in both lists. -/
inductive Run (grouping : Bool) (first : Option Dataset) :
    List Deed → List Showing → Session → Prop
  | start : Run grouping first [] [] (start first)
  | load {past : List Deed} {shown : List Showing} {s : Session}
      (run : Run grouping first past shown s) (dataset : Option Dataset) :
      Run grouping first (.loaded dataset :: past) shown (s.load dataset)
  | execute {past : List Deed} {shown : List Showing} {s : Session}
      (run : Run grouping first past shown s) {text : String} {answer : QueryAnswer}
      (answered : (s.execute grouping text).outcome = .ok answer) :
      Run grouping first (.queried text answer :: past)
        ((s.execute grouping text).showing.toList ++ shown) (s.execute grouping text).session
  | reset {past : List Deed} {shown : List Showing} {s : Session}
      (run : Run grouping first past shown s) {data : Value}
      (answered : s.reset.outcome = .ok data) :
      Run grouping first (.restored data :: past) (s.reset.showing.toList ++ shown)
        s.reset.session

/-- The data of a dataset as they were received, null without one. -/
def received (dataset : Option Dataset) : Value := (dataset.map Dataset.raw).getD .null

/-- The dataset loaded last. -/
def latestLoad (first : Option Dataset) : List Deed → Option Dataset
  | [] => first
  | .loaded dataset :: _ => dataset
  | .queried _ _ :: earlier | .restored _ :: earlier => latestLoad first earlier

/-- The rows of the latest query that was answered since data were loaded or the query was
cleared, if there was one. -/
def latestRows : List Deed → Option (List Record)
  | [] => none
  | .queried _ (.rows rows) :: _ => some rows
  | .queried _ (.rejected _) :: earlier => latestRows earlier
  | .loaded _ :: _ | .restored _ :: _ => none

/-- What has to be on display. -/
def display (first : Option Dataset) (past : List Deed) : Value :=
  (latestRows past).elim (received (latestLoad first past)) rowsValue

/-- What an answer to a query text shows: its rows, and nothing if the text was rejected. -/
def answerShowing (text : String) : QueryAnswer → Option Showing
  | .rows rows => some ⟨rowsValue rows, text⟩
  | .rejected _ => none

/-- What has to be shown to the listener, the latest first: the rows of every query that was
answered with its text, and for every clearing the data with the empty text. -/
def showings (first : Option Dataset) : List Deed → List Showing
  | [] => []
  | .loaded _ :: earlier => showings first earlier
  | .queried text answer :: earlier =>
      (answerShowing text answer).toList ++ showings first earlier
  | .restored _ :: earlier => ⟨received (latestLoad first earlier), ""⟩ :: showings first earlier

/-- Whether something was shown since data were loaded. -/
def shownSinceLoad : List Deed → Bool
  | [] => false
  | .loaded _ :: _ => false
  | .queried _ (.rows _) :: _ | .restored _ :: _ => true
  | .queried _ (.rejected _) :: earlier => shownSinceLoad earlier

/-- What was shown last since data were loaded has to be on display. -/
theorem showings_of_shownSinceLoad (first : Option Dataset) {past : List Deed}
    (h : shownSinceLoad past = true) :
    ∃ last earlier, showings first past = last :: earlier ∧ last.data = display first past := by
  induction past with
  | nil => nomatch h
  | cons deed past ih =>
      cases deed with
      | loaded dataset => nomatch h
      | restored data => exact ⟨_, _, rfl, rfl⟩
      | queried text answer =>
          cases answer with
          | rows rows => exact ⟨_, _, rfl, rfl⟩
          | rejected message => exact ih h

theorem execute_showing {grouping : Bool} {s : Session} {text : String} {answer : QueryAnswer}
    (h : (s.execute grouping text).outcome = .ok answer) :
    (s.execute grouping text).showing = answerShowing text answer := by
  cases hrun : (Execution.run grouping s.dataset text).outcome with
  | ok result =>
      simp only [execute, hrun] at h ⊢
      rw [← Except.ok.inj h]
      rfl
  | error fault =>
      simp only [execute, hrun] at h ⊢
      cases hkind : fault.isRejection with
      | true =>
          rw [hkind] at h
          rw [← Except.ok.inj h]
          rfl
      | false =>
          rw [hkind] at h
          cases h

/-- A session as its past has to have left it. -/
structure Accounts (first : Option Dataset) (past : List Deed) (shown : List Showing)
    (s : Session) : Prop where
  dataset : s.dataset = latestLoad first past
  displayed : s.displayed = display first past
  active : s.isActive = (latestRows past).isSome
  shown : shown = showings first past

namespace Accounts

variable {first : Option Dataset} {past : List Deed} {shown : List Showing} {s : Session}

theorem load (h : Accounts first past shown s) (dataset : Option Dataset) :
    Accounts first (.loaded dataset :: past) shown (s.load dataset) :=
  ⟨rfl, rfl, rfl, h.shown⟩

theorem reset (h : Accounts first past shown s) (data : Value) :
    Accounts first (.restored data :: past) (s.reset.showing.toList ++ shown) s.reset.session where
  dataset := h.dataset
  displayed := congrArg received h.dataset
  active := rfl
  shown := by
    have hshowing : s.reset.showing.toList = [⟨received (latestLoad first past), ""⟩] := by
      rw [← h.dataset]
      rfl
    rw [hshowing, h.shown]
    rfl

/-- An answer changes the display and is shown; a rejection leaves both as they are. -/
theorem execute (h : Accounts first past shown s) {grouping : Bool} {text : String}
    {answer : QueryAnswer} (hanswer : (s.execute grouping text).outcome = .ok answer) :
    Accounts first (.queried text answer :: past)
      ((s.execute grouping text).showing.toList ++ shown) (s.execute grouping text).session := by
  rw [execute_showing hanswer, h.shown]
  obtain ⟨result, -, hsession, houtcome⟩ |
      ⟨fault, -, ⟨-, hsession, houtcome⟩ | ⟨-, -, hfault⟩⟩ := s.execute_cases grouping text
  · obtain rfl := Except.ok.inj (hanswer.symm.trans houtcome)
    rw [hsession]
    exact ⟨h.dataset, rfl, rfl, rfl⟩
  · obtain rfl := Except.ok.inj (hanswer.symm.trans houtcome)
    rw [hsession]
    exact ⟨h.dataset, h.displayed, h.active, rfl⟩
  · nomatch hanswer.symm.trans hfault

end Accounts

theorem Run.accounts {grouping : Bool} {first : Option Dataset} {past : List Deed}
    {shown : List Showing} {s : Session} (run : Run grouping first past shown s) :
    Accounts first past shown s := by
  induction run with
  | start => exact ⟨rfl, rfl, rfl, rfl⟩
  | load _ dataset ih => exact ih.load dataset
  | execute _ hanswer ih => exact ih.execute hanswer
  | reset _ _ ih => exact ih.reset _

/-- A session shows what its past says. On display are the rows of the latest query answered
since data were loaded or the query was cleared, and the loaded data without one; the session
is active exactly if there is one. The listener was told of every answer and every clearing,
in their order, and of nothing else, and what it was told last since data were loaded is on
display. A clearing leaves the session as loading its dataset again would. -/
theorem display_of_run {grouping : Bool} {first : Option Dataset} {past : List Deed}
    {shown : List Showing} {s : Session} (run : Run grouping first past shown s) :
    s.displayed = display first past ∧
      s.isActive = (latestRows past).isSome ∧
      shown = showings first past ∧
      (shownSinceLoad past = true →
        ∃ last earlier, shown = last :: earlier ∧ last.data = s.displayed) ∧
      ∀ other : Session, s.reset.session = other.load (latestLoad first past) := by
  have haccounts := run.accounts
  refine ⟨haccounts.displayed, haccounts.active, haccounts.shown, ?_, ?_⟩
  · intro hsince
    rw [haccounts.shown, haccounts.displayed]
    exact showings_of_shownSinceLoad first hsince
  · intro other
    rw [← haccounts.dataset]
    rfl

/-- A rejection behind an answer leaves the rows on display, and nothing is told of it. -/
theorem display_of_run_rejected :
    let row : Record := [("a", .ofInt 1)]
    let d : Dataset := ⟨rowsValue [row], none, .ok [row]⟩
    let text := "SELECT * FROM data"
    ∃ message shown s,
      Run false none
        [.queried "DROP" (.rejected message), .queried text (.rows [row]), .loaded (some d)]
        shown s ∧
      shown = [⟨rowsValue [row], text⟩] ∧ s.displayed = rowsValue [row] ∧ s.isActive = true ∧
      s.reset.session = start (some d) := by
  intro row d text
  let loaded : Session := (start none).load (some d)
  let q : Query := { text := text, projection := .everything, source := some "data"
                     condition := none, grouping := [], order := none, limit := none
                     warnings := [] }
  have hparse : Query.parse text = .ok q := by
    apply toOption_eq_some.mp
    decide +kernel
  have hexecute : JsonQuery.execute false (some d) text = .ok ⟨[row], []⟩ := by
    rw [JsonQuery.execute, hparse]
    rfl
  have hrefused : Query.parse "DROP" = .error .notSelection := by
    decide +kernel
  have hreject : JsonQuery.execute false (some d) "DROP" = .error .notSelection := by
    rw [JsonQuery.execute, hrefused]
    rfl
  have hanswer : (loaded.execute false text).outcome = .ok (.rows [row]) ∧
      (loaded.execute false text).session.dataset = some d := by
    obtain ⟨result, hresult, hsession, houtcome⟩ | ⟨fault, hfault, -⟩ :=
      loaded.execute_cases false text
    · obtain rfl := Except.ok.inj (hexecute.symm.trans hresult)
      exact ⟨houtcome, congrArg Session.dataset hsession⟩
    · nomatch hexecute.symm.trans hfault
  let answered := (loaded.execute false text).session
  have hrejected : (answered.execute false "DROP").outcome =
      .ok (.rejected Fault.notSelection.message) := by
    have hfault := hreject
    rw [← hanswer.2] at hfault
    obtain ⟨result, hresult, -⟩ | ⟨fault, hother, ⟨-, -, houtcome⟩ | ⟨hkind, -⟩⟩ :=
      answered.execute_cases false "DROP"
    · nomatch hfault.symm.trans hresult
    · obtain rfl := Except.error.inj (hfault.symm.trans hother)
      exact houtcome
    · obtain rfl := Except.error.inj (hfault.symm.trans hother)
      nomatch hkind
  have hrun := ((Run.start.load (some d)).execute hanswer.1).execute hrejected
  obtain ⟨hdisplayed, hactive, hshown, -, hreset⟩ := display_of_run hrun
  exact ⟨_, _, _, hrun, hshown, hdisplayed, hactive, hreset loaded⟩

end JsonQuery.Session
