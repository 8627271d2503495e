import JsonQuery.Dataset.Basic
import JsonQuery.Proofs.Outcome
import JsonQuery.Proofs.Value.Record
import JsonQuery.Session.Basic
import Mathlib.Tactic

/-!
Flat rows. A row is flat if no key stands in it twice and no value of it is an array or an
object. Flattening makes rows flat whatever it is given, and leaves a flat row as it is. So
the rows of a dataset are flat, and a dataset of flat rows has just these rows.
-/

namespace JsonQuery

open Outcome

/-- Whether a value is no array and no object. -/
def Value.isScalar : Value → Bool
  | .array _ | .object _ => false
  | _ => true

namespace Record

variable {r members : Record} {k : String} {v : Value}

/-- No key stands in the row twice, and every value is a scalar. -/
structure IsFlat (r : Record) : Prop where
  distinct : r.keys.Nodup
  scalar : ∀ m ∈ r, m.2.isScalar = true

theorem keys_cons (m : String × Value) (r : Record) : keys (m :: r) = m.1 :: keys r := rfl

theorem IsFlat.nil : IsFlat [] := ⟨List.nodup_nil, fun _ hm => nomatch hm⟩

theorem IsFlat.cons_iff : IsFlat ((k, v) :: r) ↔
    k ∉ keys r ∧ v.isScalar = true ∧ IsFlat r := by
  constructor
  · rintro ⟨hdistinct, hscalar⟩
    obtain ⟨hk, hrest⟩ := List.nodup_cons.mp hdistinct
    exact ⟨hk, hscalar (k, v) List.mem_cons_self,
      hrest, fun m hm => hscalar m (List.mem_cons_of_mem _ hm)⟩
  · rintro ⟨hk, hv, hrest⟩
    refine ⟨List.nodup_cons.mpr ⟨hk, hrest.distinct⟩, ?_⟩
    intro m hm
    rcases List.mem_cons.mp hm with rfl | hm
    · exact hv
    · exact hrest.scalar m hm

/-- Writing a scalar keeps a row flat. -/
theorem IsFlat.put (hr : IsFlat r) (hv : v.isScalar = true) : IsFlat (r.put k v) := by
  induction r with
  | nil => exact cons_iff.mpr ⟨List.not_mem_nil, hv, .nil⟩
  | cons m r ih =>
      obtain ⟨first, old⟩ := m
      obtain ⟨hfirst, hold, hrest⟩ := cons_iff.mp hr
      rw [Record.put]
      split
      · rename_i hk
        rw [beq_iff_eq] at hk
        exact cons_iff.mpr ⟨hk ▸ hfirst, hv, hrest⟩
      · rename_i hk
        refine cons_iff.mpr ⟨?_, hold, ih hrest⟩
        intro hmem
        rcases mem_keys_put_iff.mp hmem with heq | hmem
        · exact hk (beq_iff_eq.mpr heq)
        · exact hfirst hmem

/-- Writing the members of a flat row keeps a row flat. -/
theorem IsFlat.putAll (hr : IsFlat r) (hmembers : ∀ m ∈ members, m.2.isScalar = true) :
    IsFlat (r.putAll members) := by
  unfold Record.putAll
  induction members generalizing r with
  | nil => exact hr
  | cons m members ih =>
      rw [List.foldl_cons]
      exact ih (hr.put (hmembers m List.mem_cons_self))
        fun m hm => hmembers m (List.mem_cons_of_mem _ hm)

/-- A write under a key that the row lacks stands at its end. -/
theorem put_of_not_mem (hk : k ∉ keys r) : r.put k v = r ++ [(k, v)] := by
  induction r with
  | nil => rfl
  | cons m r ih =>
      rw [keys_cons, List.mem_cons, not_or] at hk
      rw [put, if_neg (by simpa using Ne.symm hk.1), ih hk.2]
      rfl

/-- The next member of a flat row is a scalar, and it is written behind the members before it. -/
theorem IsFlat.put_next (h : IsFlat (r ++ (k, v) :: members)) :
    v.isScalar = true ∧ r.put k v = r ++ [(k, v)] := by
  refine ⟨h.scalar (k, v) (by simp), put_of_not_mem fun hk => ?_⟩
  have hdistinct : (r.keys ++ k :: keys members).Nodup := by
    simpa [keys] using h.distinct
  exact (List.nodup_append.mp hdistinct).2.2 k hk k List.mem_cons_self rfl

end Record

/-- Writing a scalar into a row is all that flattening does with it. -/
theorem Value.flattenInto_scalar {v : Value} (hv : v.isScalar = true) (row : Record)
    (path : String) : v.flattenInto row path = .ok (row.put path v) := by
  cases v with
  | array items => exact absurd hv Bool.false_ne_true
  | object members => exact absurd hv Bool.false_ne_true
  | null | bool _ | number _ | string _ => rfl

mutual

/-- Flattening a value into a flat row gives a flat row. -/
theorem Value.flattenInto_isFlat (v : Value) {row out : Record} {path : String}
    (hrow : row.IsFlat) (h : v.flattenInto row path = .ok out) : out.IsFlat := by
  match v with
  | .object members =>
      rw [Value.flattenInto] at h
      obtain ⟨inner, hinner, hout⟩ := bind_eq_ok.mp h
      rw [← pure_eq_ok.mp hout]
      exact hrow.putAll (flattenMembers_isFlat members .nil hinner).scalar
  | .array items =>
      rw [Value.flattenInto] at h
      obtain ⟨text, -, hout⟩ := bind_eq_ok.mp h
      rw [← pure_eq_ok.mp hout]
      exact hrow.put rfl
  | .null | .bool _ | .number _ | .string _ =>
      rw [Value.flattenInto_scalar rfl] at h
      rw [← Except.ok.inj h]
      exact hrow.put rfl

/-- Flattening members into a flat row gives a flat row. -/
theorem flattenMembers_isFlat (members : List (String × Value)) {row out : Record}
    {path : String} (hrow : row.IsFlat) (h : flattenMembers row path members = .ok out) :
    out.IsFlat := by
  match members with
  | [] =>
      rw [flattenMembers] at h
      rw [← pure_eq_ok.mp h]
      exact hrow
  | (key, item) :: members =>
      rw [flattenMembers] at h
      obtain ⟨next, hitem, hrest⟩ := bind_eq_ok.mp h
      exact flattenMembers_isFlat members (item.flattenInto_isFlat hrow hitem) hrest

end

/-- The rows of elements are flat. -/
theorem Dataset.elementRow_isFlat {element : Value} {row : Record}
    (h : elementRow element = .ok row) : row.IsFlat := by
  unfold elementRow at h
  split at h
  · exact flattenMembers_isFlat _ .nil h
  · exact flattenMembers_isFlat _ .nil h

/-- An array that begins with an object, whose elements are the rows of a dataset. -/
def Value.OffersRows (raw : Value) : Prop :=
  ∃ members rest, raw = .array (.object members :: rest)

/-- A dataset has the rows of all elements if its data offers rows, and otherwise a reason why it
has none. -/
theorem Dataset.ofValue_cases {raw : Value} {url : Option String} {d : Dataset}
    (h : ofValue raw url = .ok d) :
    (∃ items rows, raw = .array items ∧ raw.OffersRows ∧ items.mapM elementRow = .ok rows ∧
      d = ⟨raw, url, .ok rows⟩) ∨
    ∃ reason, ¬ raw.OffersRows ∧ d = ⟨raw, url, .error reason⟩ := by
  obtain ⟨content, hcontent, hd⟩ := bind_eq_ok.mp h
  obtain rfl := pure_eq_ok.mp hd
  unfold contentOf at hcontent
  split at hcontent
  · obtain rfl := pure_eq_ok.mp hcontent
    refine .inr ⟨.emptyArray, ?_, rfl⟩
    rintro ⟨_, _, ⟨⟩⟩
  · rename_i first rest
    split at hcontent
    · rename_i members
      obtain ⟨rows, hrows, hcontent⟩ := bind_eq_ok.mp hcontent
      obtain rfl := pure_eq_ok.mp hcontent
      exact .inl ⟨_, rows, rfl, ⟨members, rest, rfl⟩, hrows, rfl⟩
    · rename_i hobject
      obtain rfl := pure_eq_ok.mp hcontent
      refine .inr ⟨.notObjects, ?_, rfl⟩
      rintro ⟨members, _, ⟨⟩⟩
      exact hobject members rfl
  · rename_i hempty harray
    obtain rfl := pure_eq_ok.mp hcontent
    refine .inr ⟨.notArray, ?_, rfl⟩
    rintro ⟨members, rest, rfl⟩
    exact harray _ _ rfl

/-- The rows of a dataset are flat. -/
theorem Dataset.rows_isFlat {raw : Value} {url : Option String} {d : Dataset}
    (h : ofValue raw url = .ok d) : ∀ row ∈ d.rows, row.IsFlat := by
  obtain ⟨items, rows, -, -, hrows, rfl⟩ | ⟨reason, -, rfl⟩ := ofValue_cases h
  · intro row hrow
    exact forall_mem_of_mapM hrows (fun _ _ helement => elementRow_isFlat helement) row hrow
  · exact fun _ hrow => nomatch hrow

theorem joinPath_empty (key : String) : joinPath "" key = key := if_pos rfl

/-- Flattening adds the members of a flat row behind those that are there. -/
theorem flattenMembers_of_isFlat {row members : Record} (h : Record.IsFlat (row ++ members)) :
    flattenMembers row "" members = .ok (row ++ members) := by
  induction members generalizing row with
  | nil =>
      rw [flattenMembers, List.append_nil]
      rfl
  | cons m members ih =>
      obtain ⟨key, item⟩ := m
      obtain ⟨hitem, hput⟩ := h.put_next
      have hstep : item.flattenInto row (joinPath "" key) = .ok (row ++ [(key, item)]) := by
        rw [item.flattenInto_scalar hitem, joinPath_empty, hput]
      rw [List.append_cons] at h ⊢
      rw [flattenMembers, hstep, ok_bind]
      exact ih h

/-- A flat row is its own flat row. -/
theorem Record.flatten_of_isFlat {r : Record} (h : r.IsFlat) : r.flatten "" = .ok r := by
  have hwhole : IsFlat ([] ++ r) := h
  exact flattenMembers_of_isFlat hwhole

/-- The dataset of some flat rows, of which there is at least one, has just these rows. -/
theorem Dataset.ofValue_rowsValue {rows : List Record} (hne : rows ≠ [])
    (hflat : ∀ row ∈ rows, row.IsFlat) (url : Option String) :
    ofValue (rowsValue rows) url = .ok ⟨rowsValue rows, url, .ok rows⟩ := by
  have hrows : (rows.map Value.object).mapM elementRow = .ok rows := by
    rw [mapM_eq_ok, List.forall₂_map_left_iff, List.forall₂_same]
    exact fun row hrow => Record.flatten_of_isFlat (hflat row hrow)
  cases rows with
  | nil => exact absurd rfl hne
  | cons row rows =>
      have hcontent : contentOf (rowsValue (row :: rows)) = .ok (.ok (row :: rows)) := by
        change (((row :: rows).map Value.object).mapM elementRow >>= fun flat =>
          Except.ok (Except.ok flat)) = _
        rw [hrows, ok_bind]
      rw [ofValue, hcontent]
      rfl

end JsonQuery
