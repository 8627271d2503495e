import JsonQuery.Proofs.Query.Failing
import JsonQuery.Proofs.Session.Display

/-!
What an answered query text leaves behind. A session keeps the answer, which is rows or a
message and never both. Rows come on display; a message changes nothing of what is to be seen. A
text is rejected for the reason why there is nothing to query, and only where there is none for
what the text lacks.
-/

namespace JsonQuery

open Outcome

theorem Query.BreaksOff.isRejection {grouping : Bool} {fault : Fault}
    (h : BreaksOff grouping fault) : fault.isRejection = false := by
  cases h with
  | noText | sum | mean => rfl

@[simp] def QueryAnswer.rows? : QueryAnswer → Option (List Record)
  | .rows found => some found
  | .rejected _ => none

@[simp] def QueryAnswer.message? : QueryAnswer → Option String
  | .rows _ => none
  | .rejected message => some message

namespace Session

variable {grouping : Bool} {s : Session} {text : String} {fault : Fault}

section Rejection

theorem isAvailable_eq (s : Session) : s.isAvailable = s.reason?.isNone := by
  obtain ⟨dataset⟩ := s
  cases dataset with
  | none => rfl
  | some d =>
      obtain ⟨raw, sourceUrl, content⟩ := d
      cases content with
      | ok _ | error _ => rfl

/-- The reason a session gives is the one with which the run of a query breaks off. -/
theorem requireRows_eq_error : requireRows s.dataset = .error fault ↔
    ∃ reason, s.reason? = some reason ∧ fault = .noData reason := by
  obtain ⟨dataset⟩ := s
  cases dataset with
  | none => simp [requireRows, reason?, eq_comm]
  | some d =>
      obtain ⟨raw, sourceUrl, content⟩ := d
      cases content with
      | ok _ => simp [requireRows, reason?, Dataset.requireRows, Dataset.reason?, Except.mapError]
      | error _ =>
          simp [requireRows, reason?, Dataset.requireRows, Dataset.reason?, Except.mapError,
            eq_comm]

/-- Why a session rejects a text. The text is not read where there is nothing to query. -/
inductive Rejects (s : Session) (text : String) : Fault → Prop
  | nothing {reason : Unavailable} (h : s.reason? = some reason) : Rejects s text (.noData reason)
  | unread {fault : Fault} (havailable : s.reason? = none)
      (hparse : Query.parse text = .error fault) (hkind : fault.isRejection = true) :
      Rejects s text fault

theorem execute_eq_error_iff :
    JsonQuery.execute grouping s.dataset text = .error fault ∧ fault.isRejection = true ↔
      Rejects s text fault := by
  unfold JsonQuery.execute
  constructor
  · rintro ⟨hfault, hkind⟩
    obtain hrows | ⟨rows, hrows, hfault⟩ := bind_eq_error.mp hfault
    · obtain ⟨reason, hreason, rfl⟩ := requireRows_eq_error.mp hrows
      exact .nothing hreason
    · have havailable : s.reason? = none := by
        rw [Option.eq_none_iff_forall_ne_some]
        intro reason hreason
        nomatch hrows.symm.trans (requireRows_eq_error.mpr ⟨reason, hreason, rfl⟩)
      obtain hparse | ⟨query, -, hrun⟩ := bind_eq_error.mp hfault
      · exact .unread havailable hparse hkind
      · -- the run of a query that was read is never rejected
        nomatch hkind.symm.trans (query.run_failsWith rows _ hrun).isRejection
  · rintro (@⟨reason, hreason⟩ | ⟨havailable, hparse, hkind⟩)
    · exact ⟨bind_eq_error.mpr (.inl (requireRows_eq_error.mpr ⟨reason, hreason, rfl⟩)), rfl⟩
    · cases hrows : requireRows s.dataset with
      | error missing =>
          obtain ⟨reason, hreason, -⟩ := requireRows_eq_error.mp hrows
          nomatch hreason.symm.trans havailable
      | ok rows =>
          exact ⟨bind_eq_error.mpr (.inr ⟨rows, rfl, bind_eq_error.mpr (.inl hparse)⟩), hkind⟩

theorem execute_rejected_iff {message : String} :
    (s.execute grouping text).outcome = .ok (.rejected message) ↔
      ∃ fault, Rejects s text fault ∧ fault.message = message := by
  have hrejects (fault : Fault) : Rejects s text fault ↔
      JsonQuery.execute grouping s.dataset text = .error fault ∧ fault.isRejection = true :=
    execute_eq_error_iff.symm
  simp only [hrejects]
  obtain ⟨result, hresult, -, houtcome⟩ | ⟨fault, hfault, hcases⟩ := s.execute_cases grouping text
  · simp [hresult, houtcome]
  · obtain ⟨hkind, -, houtcome⟩ | ⟨hkind, -, houtcome⟩ := hcases
    · simp [hfault, houtcome, hkind]
    · simp [hfault, houtcome, hkind]

end Rejection

/-- What is to be seen of a session: what is on display, whether that is the result of a query,
and all that its listener was shown, the latest first. -/
structure View where
  displayed : Value
  isActive : Bool
  shown : List Showing

/-- What is to be seen of a session after its listener was shown something. -/
def view (s : Session) (shown : List Showing) : View := ⟨s.displayed, s.isActive, shown⟩

/-- What is to be seen after a text was answered: its rows, shown once more, or what was seen
before. -/
@[simp] def View.after (text : String) (seen : View) : QueryAnswer → View
  | .rows rows => ⟨rowsValue rows, true, ⟨rowsValue rows, text⟩ :: seen.shown⟩
  | .rejected _ => seen

/-- How a session keeps the answer to a text. -/
structure Keeps (before : Session) (text : String) (answer : QueryAnswer)
    (step : SessionStep QueryAnswer) : Prop where
  queryText : step.session.queryText = text
  dataset : step.session.dataset = before.dataset
  lastResult : step.session.lastResult = answer.rows?.map rowsValue
  lastError : step.session.lastError = answer.message?
  exclusive : step.session.lastResult.isSome = !step.session.lastError.isSome
  warnings : step.session.lastError.isSome = true → step.session.warnings = []
  view : ∀ shown, step.session.view (step.showing.toList ++ shown) =
    (before.view shown).after text answer

theorem keeps_of_answered {answer : QueryAnswer}
    (h : (s.execute grouping text).outcome = .ok answer) :
    s.Keeps text answer (s.execute grouping text) := by
  have hshowing := execute_showing h
  obtain ⟨result, -, hsession, houtcome⟩ | ⟨fault, -, hcases⟩ := s.execute_cases grouping text
  · obtain rfl := Except.ok.inj (h.symm.trans houtcome)
    constructor <;> simp [hsession, hshowing, accept, view, answerShowing]
  · obtain ⟨-, hsession, houtcome⟩ | ⟨-, -, houtcome⟩ := hcases
    · obtain rfl := Except.ok.inj (h.symm.trans houtcome)
      constructor <;> simp [hsession, hshowing, reject, view, answerShowing]
    · cases h.symm.trans houtcome

/-- Whatever was done with a session before, it keeps the answer to a text as its rows or as its
message and not as both. Rows come on display and are shown to the listener with the text. A
rejection leaves no warnings and all that is to be seen as it was. A session that has nothing to
query rejects every text, whatever it says, with the reason that it gives for that. -/
theorem execute_exclusive (grouping : Bool) (s : Session) (text : String) :
    (∀ answer, (s.execute grouping text).outcome = .ok answer →
      s.Keeps text answer (s.execute grouping text)) ∧
    (s.isAvailable = false → ∃ reason, s.reason? = some reason ∧
      (s.execute grouping text).outcome = .ok (.rejected reason.message)) := by
  refine ⟨fun answer h => keeps_of_answered h, ?_⟩
  intro hunavailable
  rw [isAvailable_eq, Option.isNone_eq_false_iff, Option.isSome_iff_exists] at hunavailable
  obtain ⟨reason, hreason⟩ := hunavailable
  exact ⟨reason, hreason, execute_rejected_iff.mpr ⟨_, .nothing hreason, rfl⟩⟩

/-- No text is read without data; the empty one is rejected for their lack too. -/
theorem execute_exclusive_empty :
    let answer : QueryAnswer := .rejected "No data available for querying"
    ((start none).execute false "").outcome = .ok answer ∧
      (start none).Keeps "" answer ((start none).execute false "") := by
  intro answer
  obtain ⟨hkeeps, hreason⟩ := execute_exclusive false (start none) ""
  obtain ⟨reason, hsome, houtcome⟩ := hreason rfl
  obtain rfl := Option.some.inj hsome
  exact ⟨houtcome, hkeeps answer houtcome⟩

end Session

end JsonQuery
