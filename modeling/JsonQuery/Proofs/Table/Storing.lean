import JsonQuery.Proofs.Export.Failing
import JsonQuery.Proofs.Export.Flat
import JsonQuery.Proofs.Table.Cells
import JsonQuery.Proofs.Value.Writable

/-!
Which flat rows can be stored as a table. A column of scalars always has a type, and values that
do not fit it make it a column of texts, with two exceptions: an integer beyond 64 bits that is
reached while integers are stored, and a text that cannot be written. Rows without these can be
stored, printed and written as comma-separated text, and rows with one of them can not.
-/

namespace JsonQuery

open Outcome

/-- Whether a value is null or an integer. -/
def Value.isWhole : Value → Bool
  | .null | .number (.int _) => true
  | _ => false

/-- An integer beyond 64 bits in a column that is taken for one of integers: only nulls and
integers of 64 bits stand before it, and the first value of another kind, if there is one, is a
text. -/
def TableColumn.Overflows (values : List Value) : Prop :=
  (∃ before n after, values = before ++ .ofInt n :: after ∧
    (∀ v ∈ before, StorageType.int64.fit v = .fits) ∧ StorageType.isInt64 n = false) ∧
  ∀ v, values.find? (!·.isWhole) = some v → ∃ s, v = .string s

section Types

variable {values : List Value}

/-- What is looked at of scalars are the nulls and integers at the front and the value behind
them. -/
theorem mem_examined_iff (hscalar : ∀ v ∈ values, v.isScalar = true) {v : Value} :
    v ∈ StorageType.examined values ↔
      v ∈ values.takeWhile Value.isWhole ∨ values.find? (!·.isWhole) = some v := by
  induction values with
  | nil => simp [StorageType.examined]
  | cons first values ih =>
      obtain ⟨hfirst, hlater⟩ := List.forall_mem_cons.mp hscalar
      have hsettles : StorageType.settles first = !first.isWhole := by
        cases first with
        | null | bool _ | string _ => rfl
        | number n => cases n <;> rfl
        | array _ | object _ => cases hfirst
      rw [StorageType.examined, hsettles]
      cases hwhole : first.isWhole with
      | false => simp [hwhole, eq_comm]
      | true => simp [hwhole, ih hlater, or_assoc]

/-- Values are taken for integers if there is one among them and no truth value and no
fraction. -/
theorem ofScalars_eq_int64_iff :
    StorageType.ofScalars values = .int64 ↔
      (∀ b, .bool b ∉ values) ∧ (∀ x, .ofFloat x ∉ values) ∧ ∃ n, .ofInt n ∈ values := by
  rw [StorageType.ofScalars]
  dsimp only
  split
  · rename_i htruth
    obtain ⟨v, hv, htruth⟩ := List.any_eq_true.mp htruth
    match v with
    | .bool b => exact iff_of_false nofun fun h => h.1 b hv
  · rename_i htruth
    have htruth : ∀ b, .bool b ∉ values :=
      fun b hb => htruth (List.any_eq_true.mpr ⟨_, hb, rfl⟩)
    split
    · rename_i hfraction
      obtain ⟨v, hv, hfraction⟩ := List.any_eq_true.mp hfraction
      match v with
      | .number (.float x) => exact iff_of_false nofun fun h => h.2.1 x hv
    · rename_i hfraction
      have hfraction : ∀ x, .ofFloat x ∉ values :=
        fun x hx => hfraction (List.any_eq_true.mpr ⟨_, hx, rfl⟩)
      split
      · rename_i hnumber
        obtain ⟨v, hv, hnumber⟩ := List.any_eq_true.mp hnumber
        match v with
        | .number (.int n) => exact iff_of_true rfl ⟨htruth, hfraction, n, hv⟩
        | .number (.float x) => exact absurd hv (hfraction x)
      · rename_i hnumber
        have hnone : ¬ ∃ n, .ofInt n ∈ values :=
          fun ⟨_, hn⟩ => hnumber (List.any_eq_true.mpr ⟨_, hn, rfl⟩)
        split
        · exact iff_of_false nofun fun h => hnone h.2.2
        · exact iff_of_false nofun fun h => hnone h.2.2

/-- A column of scalars always has a type. -/
theorem ofColumn?_eq_some (hscalar : ∀ v ∈ values, v.isScalar = true) :
    StorageType.ofColumn? values =
      some (StorageType.ofScalars ((StorageType.examined values).filter fun v => !v.isNull)) := by
  have hgiven : ∀ v ∈ (StorageType.examined values).filter fun v => !v.isNull,
      v.isScalar = true := by
    intro v hv
    rcases (mem_examined_iff hscalar).mp (List.mem_of_mem_filter hv) with hfront | hfirst
    · exact hscalar v ((List.takeWhile_subset _ hfront))
    · exact hscalar v (List.mem_of_find?_eq_some hfirst)
  have hlists : ((StorageType.examined values).filter fun v => !v.isNull).filterMap
      Value.items? = [] := by
    refine List.filterMap_eq_nil_iff.mpr fun v hv => ?_
    have hv := hgiven v hv
    cases v with
    | array _ => cases hv
    | null | bool _ | number _ | string _ | object _ => rfl
  have hrecords : ((StorageType.examined values).filter fun v => !v.isNull).filterMap
      Value.record? = [] := by
    refine List.filterMap_eq_nil_iff.mpr fun v hv => ?_
    have hv := hgiven v hv
    cases v with
    | object _ => cases hv
    | null | bool _ | number _ | string _ | array _ => rfl
  rw [StorageType.ofColumn?, StorageType.infer?]
  simp [hlists, hrecords]

end Types

/-- Storing values comes to something else than storing if the first that does not fit comes to
it. -/
theorem Fit.first_eq_iff {fits : List Fit} {outcome : Fit} (h : outcome ≠ .fits) :
    first fits = outcome ↔
      ∃ before after, fits = before ++ outcome :: after ∧ ∀ fit ∈ before, fit = .fits := by
  constructor
  · intro hfirst
    induction fits with
    | nil => exact absurd hfirst.symm h
    | cons fit fits ih =>
        by_cases hfit : fit = .fits
        · rw [hfit, first] at hfirst
          obtain ⟨before, after, rfl, hbefore⟩ := ih hfirst
          exact ⟨fit :: before, after, rfl, List.forall_mem_cons.mpr ⟨hfit, hbefore⟩⟩
        · rw [first] at hfirst
          · exact ⟨[], fits, by rw [hfirst]; rfl, nofun⟩
          · exact hfit
  · rintro ⟨before, after, rfl, hbefore⟩
    induction before with
    | nil =>
        rw [List.nil_append, first]
        exact h
    | cons fit before ih =>
        obtain ⟨rfl, hlater⟩ := List.forall_mem_cons.mp hbefore
        exact ih hlater

section Outcomes

variable {values : List Value} {storage : StorageType} {v : Value}

/-- Of scalars only integers beyond 64 bits exceed a type, and only that of integers. -/
theorem StorageType.fit_eq_overflow_iff (hv : v.isScalar = true) :
    storage.fit v = .overflow ↔ storage = .int64 ∧ ∃ n, v = .ofInt n ∧ isInt64 n = false := by
  constructor
  · intro h
    cases v with
    | null | bool _ => cases storage <;> cases h
    | number n =>
        cases n with
        | float _ => cases storage <;> cases h
        | int n =>
            cases storage with
            | int64 =>
                rw [fit] at h
                split at h
                · cases h
                next hlarge => exact ⟨rfl, n, rfl, Bool.eq_false_iff.mpr hlarge⟩
            | double =>
                rw [fit] at h
                split at h <;> cases h
            | null | bool | string | list _ | struct _ => cases h
    | string s =>
        cases storage with
        | string =>
            rw [fit, Fit.ofText] at h
            split at h <;> cases h
        | null | bool | int64 | double | list _ | struct _ => cases h
    | array _ | object _ => cases hv
  · rintro ⟨rfl, n, rfl, hlarge⟩
    rw [Value.ofInt, fit, hlarge]
    rfl

/-- Only a text comes to something that cannot be written. -/
theorem StorageType.exists_of_fit_eq_unwritable (hv : v.isScalar = true)
    {place : Text.Unwritable} (h : storage.fit v = .unwritable place) :
    ∃ s, v = .string s ∧ ¬ Text.IsWhole s := by
  cases v with
  | null | bool _ => cases storage <;> cases h
  | number n =>
      cases n with
      | float _ => cases storage <;> cases h
      | int n =>
          cases storage with
          | int64 | double =>
              rw [fit] at h
              split at h <;> cases h
          | null | bool | string | list _ | struct _ => cases h
  | string s =>
      cases storage with
      | string =>
          rw [fit, Fit.ofText] at h
          split at h
          · cases h
          · rename_i hplace
            refine ⟨s, rfl, ?_⟩
            rw [← Text.unwritable?_utf8_eq_none_iff, hplace]
            exact Option.some_ne_none _
      | null | bool | int64 | double | list _ | struct _ => cases h
  | array _ | object _ => cases hv

/-- A text that fits can be written. -/
theorem StorageType.isWhole_of_fit {s : String} (h : storage.fit (.string s) = .fits) :
    Text.IsWhole s := by
  cases storage with
  | string =>
      rw [fit, Fit.ofText] at h
      split at h
      · rename_i hnone
        exact (Text.unwritable?_utf8_eq_none_iff s).mp hnone
      · cases h
  | null | bool | int64 | double | list _ | struct _ => cases h

theorem Value.isWhole_of_fit (h : StorageType.int64.fit v = .fits) : v.isWhole = true := by
  cases v with
  | null => rfl
  | number n =>
      cases n with
      | int _ => rfl
      | float _ => cases h
  | bool _ | string _ | array _ | object _ => cases h

/-- A column of scalars is taken for one of integers if an integer stands among the nulls and
integers at its front and the first other value, if there is one, is a text. -/
theorem ofColumn?_eq_int64_iff (hscalar : ∀ v ∈ values, v.isScalar = true) :
    StorageType.ofColumn? values = some .int64 ↔
      (∃ n, .ofInt n ∈ values.takeWhile Value.isWhole) ∧
        ∀ v, values.find? (!·.isWhole) = some v → ∃ s, v = .string s := by
  rw [ofColumn?_eq_some hscalar, Option.some_inj, ofScalars_eq_int64_iff]
  simp only [List.mem_filter, mem_examined_iff hscalar]
  constructor
  · rintro ⟨htruth, hfraction, n, hn | hn, -⟩
    · refine ⟨⟨n, hn⟩, fun v hv => ?_⟩
      have hkind := List.find?_some hv
      match v with
      | .bool b => exact absurd ⟨.inr hv, rfl⟩ (htruth b)
      | .number (.float x) => exact absurd ⟨.inr hv, rfl⟩ (hfraction x)
      | .string s => exact ⟨s, rfl⟩
      | .array _ | .object _ => cases hscalar _ (List.mem_of_find?_eq_some hv)
    · cases List.find?_some hn
  · rintro ⟨⟨n, hn⟩, hfirst⟩
    refine ⟨?_, ?_, n, .inl hn, rfl⟩
    · rintro b ⟨hb | hb, -⟩
      · cases List.mem_takeWhile_imp hb
      · obtain ⟨s, hs⟩ := hfirst _ hb
        cases hs
    · rintro x ⟨hx | hx, -⟩
      · cases List.mem_takeWhile_imp hx
      · obtain ⟨s, hs⟩ := hfirst _ hx
        cases hs

theorem TableColumn.overflows_iff (hscalar : ∀ v ∈ values, v.isScalar = true)
    (hstorage : StorageType.ofColumn? values = some storage) :
    Fit.first (values.map storage.fit) = .overflow ↔ Overflows values := by
  rw [Fit.first_eq_iff (show Fit.overflow ≠ .fits from nofun)]
  constructor
  · rintro ⟨fits, later, hfits, hbefore⟩
    obtain ⟨before, rest, rfl, rfl, hrest⟩ := List.map_eq_append_iff.mp hfits
    obtain ⟨v, after, rfl, hv, -⟩ := List.map_eq_cons_iff.mp hrest
    obtain ⟨rfl, n, rfl, hlarge⟩ :=
      (StorageType.fit_eq_overflow_iff (hscalar v (by simp))).mp hv
    obtain ⟨-, hfirst⟩ := (ofColumn?_eq_int64_iff hscalar).mp hstorage
    exact ⟨⟨before, n, after, rfl, List.forall_mem_map.mp hbefore, hlarge⟩, hfirst⟩
  · rintro ⟨⟨before, n, after, rfl, hbefore, hlarge⟩, hfirst⟩
    have hfront : .ofInt n ∈ (before ++ .ofInt n :: after).takeWhile Value.isWhole := by
      rw [List.takeWhile_append_of_pos fun v hv => Value.isWhole_of_fit (hbefore v hv)]
      simp [Value.ofInt, Value.isWhole]
    have hint64 := (ofColumn?_eq_int64_iff hscalar).mpr ⟨⟨n, hfront⟩, hfirst⟩
    obtain rfl := Option.some.inj (hstorage.symm.trans hint64)
    have hoverflow : StorageType.int64.fit (.ofInt n) = .overflow :=
      (StorageType.fit_eq_overflow_iff rfl).mpr ⟨rfl, n, rfl, hlarge⟩
    exact ⟨before.map StorageType.int64.fit, after.map StorageType.int64.fit,
      by rw [List.map_append, List.map_cons, hoverflow], List.forall_mem_map.mpr hbefore⟩

end Outcomes

section Columns

variable {values : List Value}

/-- The text that a column of texts holds for a value. -/
def Value.storedText? (v : Value) : Option String := if v.isNull then none else some v.plainText

theorem Value.toTextCell_eq {v : Value} (h : v.integersFit = true) :
    v.toTextCell = .ok ((v.storedText?.map .string).getD .null) := by
  have htext : v.text = .ok v.plainText := if_pos h
  rw [toTextCell, htext, storedText?]
  split <;> rfl

/-- Values that can be shown are stored as their texts if the texts can be written. -/
theorem TableColumn.ofTexts_eq (name : String) (hfit : ∀ v ∈ values, v.integersFit = true) :
    ofTexts name values = (requireWritable (values.filterMap Value.storedText?)).map fun _ =>
      ⟨name, .string, values.map fun v => (v.storedText?.map .string).getD .null⟩ := by
  have hcells : values.mapM Value.toTextCell =
      .ok (values.map fun v => (v.storedText?.map .string).getD .null) :=
    mapM_eq_ok.mpr (List.forall₂_map_right_iff.mpr (List.forall₂_same.mpr fun v hv =>
      Value.toTextCell_eq (hfit v hv)))
  rw [ofTexts, hcells, ok_bind, List.filterMap_map, List.filterMap_congr (g := Value.storedText?)]
  · cases requireWritable (values.filterMap Value.storedText?) <;> rfl
  · intro v _
    rw [Function.comp_apply]
    cases v.storedText? <;> rfl

/-- The texts of scalars can be written unless one of the scalars is a text that cannot. -/
theorem requireWritable_storedTexts_iff (hscalar : ∀ v ∈ values, v.isScalar = true) :
    requireWritable (values.filterMap Value.storedText?) = .ok () ↔
      ∀ s, .string s ∈ values → Text.IsWhole s := by
  rw [requireWritable_eq_ok_iff]
  constructor
  · intro hall s hs
    exact hall s (List.mem_filterMap.mpr ⟨.string s, hs, rfl⟩)
  · intro hall t ht
    obtain ⟨v, hv, ht⟩ := List.mem_filterMap.mp ht
    obtain ⟨-, ht⟩ := Option.ite_none_left_eq_some.mp ht
    obtain rfl := Option.some.inj ht
    exact (Value.plainText_isWhole_iff (hscalar v hv)).mpr fun s hs => hall s (hs ▸ hv)

/-- Texts of scalars are stored unless one of the scalars is a text that cannot be written. -/
theorem TableColumn.ofTexts_cases (name : String)
    (hscalar : ∀ v ∈ values, v.isScalar = true) (hfit : ∀ v ∈ values, v.integersFit = true) :
    (∀ s, .string s ∈ values → Text.IsWhole s) ∧
        (∃ column, ofTexts name values = .ok column) ∨
      (∃ s, .string s ∈ values ∧ ¬ Text.IsWhole s) ∧
        ∃ place, ofTexts name values = .error (.unwritable place) := by
  have hwritable := requireWritable_storedTexts_iff hscalar
  rw [ofTexts_eq name hfit, ← hwritable]
  cases hresult : requireWritable (values.filterMap Value.storedText?) with
  | ok _ => exact .inl ⟨rfl, _, rfl⟩
  | error fault =>
      obtain ⟨place, rfl⟩ := requireWritable_failsWith _ fault hresult
      refine .inr ⟨?_, place, rfl⟩
      by_contra hall
      have hok := hwritable.mpr fun s hs => by_contra fun hbroken => hall ⟨s, hs, hbroken⟩
      cases hok.symm.trans hresult

/-- What becomes of a column of scalars: it overflows, or one of its texts cannot be written, or it
is stored. -/
theorem TableColumn.ofValues_cases (name : String)
    (hscalar : ∀ v ∈ values, v.isScalar = true) (hfit : ∀ v ∈ values, v.integersFit = true) :
    Overflows values ∧ ofValues name values = .error .integerExceedsColumn ∨
      (∃ s, .string s ∈ values ∧ ¬ Text.IsWhole s) ∧
        (∃ place, ofValues name values = .error (.unwritable place)) ∨
      ¬ Overflows values ∧ (∀ s, .string s ∈ values → Text.IsWhole s) ∧
        ∃ column, ofValues name values = .ok column := by
  have hsome := ofColumn?_eq_some hscalar
  generalize StorageType.ofScalars _ = storage at hsome
  have htexts := ofTexts_cases name hscalar hfit
  rw [ofValues, hsome]
  dsimp only
  rw [← overflows_iff hscalar hsome]
  cases hfirst : Fit.first (values.map storage.fit) with
  | overflow => exact .inl ⟨rfl, rfl⟩
  | misfit =>
      rcases htexts with ⟨hall, hcolumn⟩ | hplace
      · exact .inr (.inr ⟨nofun, hall, hcolumn⟩)
      · exact .inr (.inl hplace)
  | unwritable place =>
      obtain ⟨_, _, hfits, -⟩ :=
        (Fit.first_eq_iff (show Fit.unwritable place ≠ .fits from nofun)).mp hfirst
      have hplace : .unwritable place ∈ values.map storage.fit := by simp [hfits]
      obtain ⟨v, hv, hfit⟩ := List.mem_map.mp hplace
      obtain ⟨s, rfl, hs⟩ := StorageType.exists_of_fit_eq_unwritable (hscalar v hv) hfit
      exact .inr (.inl ⟨⟨s, hv, hs⟩, place, rfl⟩)
  | fits =>
      have hall (s : String) (hs : .string s ∈ values) : Text.IsWhole s :=
        StorageType.isWhole_of_fit (Fit.first_eq_fits.mp hfirst _ (List.mem_map_of_mem hs))
      refine .inr (.inr ⟨nofun, hall, ?_⟩)
      cases storage with
      | null | bool | int64 | double | string => exact ⟨_, rfl⟩
      | list _ | struct _ =>
          rcases htexts with ⟨-, hcolumn⟩ | ⟨⟨s, hs, hbroken⟩, -⟩
          · exact hcolumn
          · exact absurd (hall s hs) hbroken

end Columns

/-- Whether rows can be stored as a table: their keys and their texts can be written, and no column
overflows. -/
structure Table.Storable (rows : List Record) : Prop where
  names : ∀ name ∈ columnNames rows, Text.IsWhole name
  texts : ∀ name ∈ columnNames rows, ∀ row ∈ rows, ∀ s, row.get name = .string s → Text.IsWhole s
  columns : ∀ name ∈ columnNames rows, ¬ TableColumn.Overflows (rows.map fun row => row.get name)

section Rows

variable {rows : List Record}

/-- What becomes of flat rows: they are stored, or a column overflows, or a text cannot be
written. -/
theorem Table.ofRows_cases (hflat : ∀ row ∈ rows, row.IsFlat)
    (hfit : ∀ row ∈ rows, ∀ m ∈ row, m.2.integersFit = true) :
    Storable rows ∧ (∃ t, ofRows rows = .ok t) ∨
      ¬ Storable rows ∧ (ofRows rows = .error .integerExceedsColumn ∧
          (∃ name ∈ columnNames rows,
            TableColumn.Overflows (rows.map fun row => row.get name)) ∨
        ∃ place, ofRows rows = .error (.unwritable place)) := by
  have hscalar (name : String) :
      ∀ v ∈ rows.map fun row => row.get name, v.isScalar = true :=
    List.forall_mem_map.mpr fun row hrow =>
      Record.get_of_forall (P := fun v => v.isScalar = true) rfl (hflat row hrow).scalar name
  have hfits (name : String) :
      ∀ v ∈ rows.map fun row => row.get name, v.integersFit = true :=
    List.forall_mem_map.mpr fun row hrow =>
      Record.get_of_forall (P := fun v => v.integersFit = true) rfl (hfit row hrow) name
  have hcolumn (name : String) := TableColumn.ofValues_cases name (hscalar name) (hfits name)
  cases htable : ofRows rows with
  | ok t =>
      obtain ⟨hcolumns, hnames⟩ := ofRows_eq_ok.mp htable
      have hstored (name : String) (hname : name ∈ columnNames rows) :
          ¬ TableColumn.Overflows (rows.map fun row => row.get name) ∧
            ∀ s, .string s ∈ (rows.map fun row => row.get name) → Text.IsWhole s := by
        obtain ⟨column, -, hok⟩ := exists_of_forall₂ hcolumns.flip hname
        rcases hcolumn name with ⟨-, herror⟩ | ⟨-, place, herror⟩ | ⟨hfits, hwhole, -⟩
        · cases hok.symm.trans herror
        · cases hok.symm.trans herror
        · exact ⟨hfits, hwhole⟩
      refine .inl ⟨⟨requireWritable_eq_ok_iff.mp hnames, fun name hname row hrow s hs => ?_,
        fun name hname => (hstored name hname).1⟩, t, rfl⟩
      exact (hstored name hname).2 s (List.mem_map.mpr ⟨row, hrow, hs⟩)
  | error fault =>
      refine .inr ?_
      rcases bind_eq_error.mp htable with hcolumns | ⟨columns, -, hnames⟩
      · obtain ⟨name, hname, herror⟩ := mapM_eq_error hcolumns
        rcases hcolumn name with ⟨hover, hfault⟩ | ⟨⟨s, hs, hbroken⟩, place, hfault⟩ |
          ⟨-, -, column, hok⟩
        · cases herror.symm.trans hfault
          exact ⟨fun h => h.columns name hname hover, .inl ⟨rfl, name, hname, hover⟩⟩
        · cases herror.symm.trans hfault
          obtain ⟨row, hrow, hs⟩ := List.mem_map.mp hs
          exact ⟨fun h => hbroken (h.texts name hname row hrow s hs), .inr ⟨place, rfl⟩⟩
        · cases hok.symm.trans herror
      · rcases bind_eq_error.mp hnames with hbroken | ⟨-, -, hdone⟩
        · obtain ⟨place, rfl⟩ := requireWritable_failsWith _ fault hbroken
          refine ⟨fun h => ?_, .inr ⟨place, rfl⟩⟩
          cases (requireWritable_eq_ok_iff.mpr h.names).symm.trans hbroken
        · cases hdone

/-- A cell can be shown if the value that it holds can. -/
theorem CellType.Holds.integersFit {type : CellType} {v cell : Value} (h : type.Holds v cell) :
    cell.integersFit = true := by
  cases h with
  | int64 hrange =>
      rename_i n
      have hbound : 2 ^ 63 < powerOfTen integerDigitLimit := by decide +kernel
      rw [StorageType.isInt64, Binary64.powerOfTwo_eq] at hrange
      simp only [Bool.and_eq_true, decide_eq_true_eq] at hrange
      rw [Value.ofInt, Value.integersFit, Value.integerFits, decide_eq_true_eq]
      omega
  | null | bool _ | fraction _ | whole _ | truth _ | text _ _ => rfl

/-- A table is made ready to be printed if each of its cells can be shown. -/
theorem Table.printed_returns {t : Table} (maxWidth : Int)
    (h : ∀ column ∈ t, ∀ cell ∈ column.cells, cell.integersFit = true) :
    ∃ columns, t.printed maxWidth = .ok columns := by
  refine exists_mapM_eq_ok fun column hcolumn => ?_
  have hcells : ∃ texts, column.cells.mapM (cellText maxWidth) = .ok texts := by
    refine exists_mapM_eq_ok fun cell hcell => ?_
    have htext : cell.text = .ok cell.plainText := if_pos (h column hcolumn cell hcell)
    rw [cellText, htext]
    split
    · exact ⟨_, rfl⟩
    · rw [ok_bind]
      dsimp only
      split <;> exact ⟨_, rfl⟩
  obtain ⟨texts, htexts⟩ := hcells
  exact ⟨_, bind_eq_ok.mpr ⟨texts, htexts, rfl⟩⟩

/-- Rows can be printed if they can be stored. -/
theorem printRows_returns_iff (maxWidth : Int) (elapsed : Binary64) (warnings : List String) :
    (∃ lines, printRows maxWidth elapsed rows warnings = .ok lines) ↔
      ∃ t, Table.ofRows rows = .ok t := by
  constructor
  · rintro ⟨lines, hlines⟩
    obtain ⟨t, ht, -⟩ := bind_eq_ok.mp hlines
    exact ⟨t, ht⟩
  · rintro ⟨t, ht⟩
    obtain ⟨columns, hcolumns⟩ := Table.printed_returns maxWidth fun column hcolumn cell hcell => by
      obtain ⟨name, -, hvalues⟩ := exists_of_forall₂ (Table.ofRows_eq_ok.mp ht).1 hcolumn
      obtain ⟨-, hcells⟩ := TableColumn.ofValues_holds hvalues
      obtain ⟨v, -, hholds⟩ := exists_of_forall₂ hcells hcell
      exact hholds.integersFit
    rw [printRows, ht, ok_bind, Table.lines, hcolumns]
    exact ⟨_, rfl⟩

/-- Rows can be written as comma-separated text if they can be stored. -/
theorem payloadOf_csv_returns_iff (hflat : ∀ row ∈ rows, row.IsFlat) (settings : ExportSettings) :
    (∃ payload, payloadOf .csv settings (rowsValue rows) = .ok payload) ↔
      ∃ t, Table.ofRows rows = .ok t := by
  rw [payloadOf, exportRows_of_isFlat hflat, ok_bind]
  constructor
  · rintro ⟨payload, hpayload⟩
    obtain ⟨t, ht, -⟩ := bind_eq_ok.mp hpayload
    exact ⟨t, ht⟩
  · rintro ⟨t, ht⟩
    rw [ht]
    exact ⟨_, rfl⟩

/-- Flat rows can be stored as a table exactly if their keys and texts can be written and no column
overflows, and what they break off with tells which of these it is. What has no other type is
stored as text. Rows that can be stored can be printed and written as comma-separated text, and
only those. The rows that answer a query are flat. -/
theorem Table.ofRows_returns_iff (hflat : ∀ row ∈ rows, row.IsFlat)
    (hfit : ∀ row ∈ rows, ∀ m ∈ row, m.2.integersFit = true) :
    ((∃ t, ofRows rows = .ok t) ↔ Storable rows) ∧
    (∀ fault, ofRows rows = .error fault →
      fault = .integerExceedsColumn ∧ (∃ name ∈ columnNames rows,
          TableColumn.Overflows (rows.map fun row => row.get name)) ∨
        ∃ place, fault = .unwritable place) ∧
    (∀ t, ofRows rows = .ok t → ∀ column ∈ t,
      List.Forall₂ column.type.Holds (rows.map fun row => row.get column.name) column.cells) ∧
    (∀ maxWidth elapsed warnings,
      (∃ lines, printRows maxWidth elapsed rows warnings = .ok lines) ↔ Storable rows) ∧
    (∀ settings, (∃ payload, payloadOf .csv settings (rowsValue rows) = .ok payload) ↔
      Storable rows) ∧
    ∀ (raw : Value) (url : Option String) (d : Dataset) (grouping : Bool) (text : String)
      (r : QueryResult), Dataset.ofValue raw url = .ok d →
      execute grouping (some d) text = .ok r → ∀ row ∈ r.rows, row.IsFlat := by
  have hcases := ofRows_cases hflat hfit
  have hiff : (∃ t, ofRows rows = .ok t) ↔ Storable rows := by
    rcases hcases with ⟨hstorable, hok⟩ | ⟨hnot, hfault⟩
    · exact iff_of_true hok hstorable
    · refine iff_of_false ?_ hnot
      rintro ⟨t, ht⟩
      rcases hfault with ⟨herror, -⟩ | ⟨place, herror⟩
      · cases ht.symm.trans herror
      · cases ht.symm.trans herror
  refine ⟨hiff, fun fault hfault => ?_, fun t ht column hcolumn => ?_,
    fun maxWidth elapsed warnings => (printRows_returns_iff maxWidth elapsed warnings).trans hiff,
    fun settings => (payloadOf_csv_returns_iff hflat settings).trans hiff,
    fun _ _ _ _ _ _ hd hr => execute_isFlat hd hr⟩
  · rcases hcases with ⟨-, t, ht⟩ | ⟨-, ⟨herror, hover⟩ | ⟨place, herror⟩⟩
    · cases ht.symm.trans hfault
    · exact .inl ⟨Except.error.inj (hfault.symm.trans herror), hover⟩
    · exact .inr ⟨place, Except.error.inj (hfault.symm.trans herror)⟩
  · obtain ⟨name, -, hvalues⟩ := exists_of_forall₂ (ofRows_eq_ok.mp ht).1 hcolumn
    obtain ⟨rfl, hcells⟩ := TableColumn.ofValues_holds hvalues
    exact hcells

/-- An integer beyond 64 bits behind a truth value is stored, as text. -/
theorem Table.ofRows_returns_behind_truth :
    let rows : List Record := [[("a", .bool true), ("b", .string "x")],
      [("b", .null), ("a", .ofInt (2 ^ 64))]]
    Storable rows ∧ (∃ lines, printRows 50 (.finite false 0) rows [] = .ok lines) ∧
      ∃ payload, payloadOf .csv ⟨.string "data", .null⟩ (rowsValue rows) = .ok payload := by
  intro rows
  have hflat : ∀ row ∈ rows, row.IsFlat := by
    refine List.forall_mem_cons.mpr ⟨⟨by decide, by decide⟩, List.forall_mem_cons.mpr
      ⟨⟨by decide, by decide⟩, nofun⟩⟩
  have hfit : ∀ row ∈ rows, ∀ m ∈ row, m.2.integersFit = true := by decide +kernel
  obtain ⟨hreturns, -, -, hprinted, hcsv, -⟩ := ofRows_returns_iff hflat hfit
  have htable : (ofRows rows).toOption.isSome = true := by decide +kernel
  obtain ⟨t, ht⟩ := Option.isSome_iff_exists.mp htable
  have hstorable := hreturns.mp ⟨t, toOption_eq_some.mp ht⟩
  exact ⟨hstorable, (hprinted _ _ _).mpr hstorable, (hcsv _).mpr hstorable⟩

/-- An integer beyond 64 bits alone is not stored, although the same integer is stored as text
behind a fraction. -/
theorem Table.ofRows_exceeds :
    let half : Binary64 := .finite false (powerOfTwo 1073)
    let large : Record := [("a", .ofInt (2 ^ 64))]
    large.IsFlat ∧ (∀ m ∈ large, m.2.integersFit = true) ∧
      ofRows [large] = .error .integerExceedsColumn ∧
      ∃ t, ofRows [[("a", .ofFloat half)], large] = .ok t ∧
        t.map TableColumn.type = [.string] := by
  intro half large
  have htypes : (ofRows [[("a", .ofFloat half)], large]).toOption.map
      (fun t => t.map TableColumn.type) = some [.string] := by
    decide +kernel
  obtain ⟨t, ht, htypes⟩ := Option.map_eq_some_iff.mp htypes
  have hflat : large.IsFlat := ⟨by decide, by decide⟩
  have hfit : ∀ m ∈ large, m.2.integersFit = true := by decide +kernel
  have herror : ofRows [large] = .error .integerExceedsColumn := by
    have hcolumn : TableColumn.ofValues "a" [.ofInt (2 ^ 64)] = .error .integerExceedsColumn := by
      have hbeyond : StorageType.isInt64 (2 ^ 64) = false := by decide +kernel
      have hscalar : ∀ v ∈ [Value.ofInt (2 ^ 64)], v.isScalar = true := by decide
      rcases TableColumn.ofValues_cases "a" hscalar (by decide +kernel) with
        ⟨-, herror⟩ | ⟨⟨s, hs, -⟩, -⟩ | ⟨hnot, -⟩
      · exact herror
      · cases List.mem_singleton.mp hs
      · exact absurd ⟨⟨[], _, [], rfl, nofun, hbeyond⟩, nofun⟩ hnot
    have hnames : columnNames [large] = ["a"] := by decide
    rw [ofRows, hnames, List.mapM_cons]
    exact bind_eq_error.mpr (.inl (bind_eq_error.mpr (.inl hcolumn)))
  exact ⟨hflat, hfit, herror, t, toOption_eq_some.mp ht, htypes⟩

end Rows

end JsonQuery
