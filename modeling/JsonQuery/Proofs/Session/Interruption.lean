import JsonQuery.Proofs.Dataset.Flat
import JsonQuery.Proofs.Session.Operation

/-!
What an operation leaves behind when it breaks off with a fault. Nothing is taken back, so the
order of the writes decides: a query has noted its text and a filter its rules by then, data
that came are published before the place they came from is remembered, and nothing else has
been written.
-/

namespace JsonQuery

open Outcome

/-- Whether a setting for the length of the history is a number of entries, or is not set. -/
def Value.countsEntries : Value → Bool
  | .null | .bool _ | .number (.int _) => true
  | _ => false

/-- A place cannot be remembered only if the setting for the length is no number of entries. -/
theorem remember_eq_error {size : Value} {history : List Endpoint} {url : String} {fault : Fault}
    (h : remember size history url = .error fault) : size.countsEntries = false := by
  cases size with
  | null | bool _ => nomatch h
  | number n =>
      cases n with
      | int n => nomatch h
      | float x => rfl
  | string _ | array _ | object _ => rfl

namespace Workspace

/-- What is left of a workspace when data were published and the place they came from could not
be remembered, because the length of the history is no number of entries. -/
def PublishedOnly (w : Workspace) (data : Value) (url : Option String) (left : Workspace) :
    Prop :=
  w.settings.fetch.historySize.countsEntries = false ∧
    ∃ d, Dataset.ofValue data url = .ok d ∧
      left = { w.publish (some d) with fetchError := none }

/-- What may be left of a workspace by an operation that broke off. -/
def LeftBehind (w : Workspace) : Operation → Workspace → Prop
  | .load data url, left => left = w ∨ w.PublishedOnly data url left
  | .fetch network url, left =>
      left = w ∨ ∃ result place,
        (JsonQuery.fetch w.settings.fetch network url).outcome = .ok (.ok result) ∧
        w.PublishedOnly result.data place left
  | .filter rules, left => left = { w with filters := rules }
  | .query text, left => left = { w with session := { w.session with queryText := text } }
  | .exportDisplayed _ _, left => left = w
  | .reset, _ | .clear, _ => False

variable {w : Workspace} {fault : Fault}

theorem load_of_fault {data : Value} {url : Option String}
    (h : (w.load data url).outcome = .error fault) :
    (w.load data url).workspace = w ∨ w.PublishedOnly data url (w.load data url).workspace := by
  obtain ⟨_, hsame, -⟩ | ⟨d, hd, ⟨_, -, hanswer⟩ | ⟨_, _, hremember, hpublished, -⟩⟩ :=
    w.load_cases data url
  · exact .inl hsame
  · nomatch h.symm.trans hanswer
  · exact .inr ⟨remember_eq_error hremember, d, hd, hpublished⟩

/-- An operation that breaks off leaves no more behind than what it wrote before it was tried;
a reset and a clearing never break off. -/
theorem leftBehind_of_fault {operation : Operation}
    (h : (w.operate operation).outcome = .error fault) :
    LeftBehind w operation (w.operate operation).workspace := by
  cases operation with
  | load data url => exact load_of_fault (WorkspaceStep.map_eq_error.mp h)
  | fetch network url =>
      have hfault := WorkspaceStep.map_eq_error.mp h
      obtain ⟨_, hsame, -⟩ | ⟨_, -, hanswer⟩ | ⟨result, place, hfetched, hloaded, houtcome⟩ :=
        w.fetch_cases network url
      · exact .inl hsame
      · nomatch hfault.symm.trans hanswer
      · -- the fault is that of loading the data that came
        have hleft := load_of_fault (map_eq_error.mp (houtcome.symm.trans hfault))
        rw [← hloaded] at hleft
        exact hleft.imp_right fun hpublished => ⟨result, place, hfetched, hpublished⟩
  | filter rules =>
      have hfault := WorkspaceStep.map_eq_error.mp h
      obtain ⟨_, hkept, -⟩ | ⟨-, -, hanswer⟩ | ⟨_, -, -, hanswer⟩ := w.filter_cases rules
      · exact hkept
      · nomatch hfault.symm.trans hanswer
      · nomatch hfault.symm.trans hanswer
  | query text =>
      have hfault := WorkspaceStep.map_eq_error.mp h
      obtain ⟨_, -, -, hanswer⟩ | ⟨_, -, ⟨-, -, hanswer⟩ | ⟨-, hnoted, -⟩⟩ := w.query_cases text
      · nomatch hfault.symm.trans hanswer
      · nomatch hfault.symm.trans hanswer
      · exact hnoted
  | reset => nomatch h
  | exportDisplayed format today => exact w.exportDisplayed_workspace format today
  | clear => nomatch h

/-- An integer with one digit too many to be written breaks a filter off, and the rule stays. -/
theorem leftBehind_of_fault_filter :
    let item : Value := .object [("a", .ofInt (10 ^ 4300))]
    let d : Dataset := ⟨.array [item], none, .ok [[("a", .ofInt (10 ^ 4300))]]⟩
    let loaded : Workspace := { (start .default).publish (some d) with fetchError := none }
    let rule : FilterRule := ⟨"a", .contains, "1"⟩
    (∃ fault, (loaded.operate (.filter [rule])).outcome = .error fault) ∧
      (loaded.operate (.filter [rule])).workspace = { loaded with filters := [rule] } := by
  intro item d loaded rule
  have hbreak (n : Int) (hfits : Value.integerFits n = false) :
      applyFilters [.object [("a", .ofInt n)]] [rule] = .error .integerTooLongToWrite := by
    have haccepts : rule.accepts (.object [("a", .ofInt n)]) = .error .integerTooLongToWrite := by
      show (Value.ofInt n).text >>= _ = _
      rw [Value.text, show (Value.ofInt n).integersFit = false from hfits]
      rfl
    rw [applyFilters, List.filterM, List.filterAuxM, acceptsAll, haccepts]
    rfl
  have hrule : applyFilters [item] [rule] = .error .integerTooLongToWrite :=
    hbreak (10 ^ 4300) (by decide +kernel)
  obtain ⟨fault, -, houtcome⟩ | ⟨hnone, -⟩ | ⟨view, hview, -⟩ := loaded.filter_cases [rule]
  · have hfault : (loaded.operate (.filter [rule])).outcome = .error fault :=
      WorkspaceStep.map_eq_error.mpr houtcome
    exact ⟨⟨fault, hfault⟩, leftBehind_of_fault hfault⟩
  · cases hnone
  · obtain ⟨kept, hkept, -⟩ := hview
    cases hrule.symm.trans hkept

/-- A mean too large for double precision breaks a query off, and the session shows its text
beside the data of before. -/
theorem query_text_left_behind :
    let settings := { Settings.default with query := ⟨.bool true, .string "data"⟩ }
    let row : Record := [("a", .ofInt (10 ^ 400))]
    let d : Dataset := ⟨rowsValue [row], none, .ok [row]⟩
    let loaded : Workspace := { (start settings).publish (some d) with fetchError := none }
    let text := "SELECT AVG(a) FROM data"
    (∃ answers, Run settings answers loaded) ∧
      (∃ fault, (loaded.operate (.query text)).outcome = .error fault) ∧
      loaded.session.queryText = "" ∧
      (loaded.operate (.query text)).workspace.session.queryText = text := by
  intro settings row d loaded text
  have hflat : Record.IsFlat row := Record.IsFlat.cons_iff.mpr ⟨List.not_mem_nil, rfl, .nil⟩
  have hd : Dataset.ofValue (rowsValue [row]) none = .ok d :=
    Dataset.ofValue_rowsValue (List.cons_ne_nil _ _) (List.forall_mem_singleton.mpr hflat) none
  have hbreak : execute true (some d) text = .error .quotientExceedsFloat := by
    have hmapped : (execute true (some d) text).map (fun _ => ()) =
        .error .quotientExceedsFloat := by
      decide +kernel
    exact map_eq_error.mp hmapped
  refine ⟨⟨_, run_load hd⟩, ?_⟩
  obtain ⟨result, hresult, -⟩ | ⟨fault, hfault, ⟨hkind, -⟩ | ⟨-, hleft, houtcome⟩⟩ :=
    loaded.query_cases text
  · have hresult : execute true (some d) text = .ok result := hresult
    cases hbreak.symm.trans hresult
  · have hfault : execute true (some d) text = .error fault := hfault
    obtain rfl := Except.error.inj (hbreak.symm.trans hfault)
    cases hkind
  · refine ⟨⟨fault, WorkspaceStep.map_eq_error.mpr houtcome⟩, rfl, ?_⟩
    exact congrArg (fun w => w.session.queryText) hleft

end Workspace

end JsonQuery
