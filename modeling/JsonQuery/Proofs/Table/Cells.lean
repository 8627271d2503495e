import JsonQuery.Proofs.Outcome
import JsonQuery.Proofs.Query.Equality
import JsonQuery.Proofs.Value.Record
import JsonQuery.Table.Basic

/-!
What a table keeps of its rows. Its columns are the keys of the rows, and each column has one cell
for each row. A cell holds what the row has under the key: as it is, as the number that is equal
to it, or as its text, and which of these it may be, the type of the column tells.
-/

namespace JsonQuery

open Outcome

section Names

/-- Names that are collected one after the other are the keys that writes leave behind. -/
theorem foldl_names_keys (r members : Record) :
    members.foldl (fun names m => if names.contains m.1 then names else names ++ [m.1]) r.keys =
      (r.putAll members).keys := by
  induction members generalizing r with
  | nil => rfl
  | cons m members ih =>
      have hnext : (if r.keys.contains m.1 then r.keys else r.keys ++ [m.1]) =
          (r.put m.1 m.2).keys := by
        simp only [Record.keys_put, List.contains_iff_mem]
      rw [List.foldl_cons, hnext, ih]
      rfl

/-- The columns are what the members of all rows leave behind as keys when they are written. -/
theorem columnNames_eq_keys (rows : List Record) :
    columnNames rows = (Record.putAll [] rows.flatten).keys := by
  rw [← foldl_names_keys, columnNames, List.foldl_flatten]
  rfl

/-- The columns are the keys of the rows, row by row, each where it is met first. -/
theorem columnNames_eq (rows : List Record) :
    columnNames rows = (rows.flatMap Record.keys).eraseDups := by
  have hkeys : Record.keys rows.flatten = rows.flatMap Record.keys := List.map_flatten
  rw [columnNames_eq_keys, Record.keys_putAll, hkeys]
  simp [Record.keys]

theorem columnNames_nodup (rows : List Record) : (columnNames rows).Nodup := by
  rw [columnNames_eq_keys]
  exact Record.nodup_keys_putAll (r := []) List.nodup_nil _

end Names

/-- What a cell of a column holds for the value that a row has there. -/
inductive CellType.Holds : CellType → Value → Value → Prop
  | null (type : CellType) : Holds type .null .null
  | bool (b : Bool) : Holds .bool (.bool b) (.bool b)
  | int64 {n : Int} (hrange : StorageType.isInt64 n = true) : Holds .int64 (.ofInt n) (.ofInt n)
  | fraction (x : Binary64) : Holds .double (.ofFloat x) (.ofFloat x)
  | whole {n : Int} {x : Binary64} (hsame : (Number.int n).same (.float x) = true) :
      Holds .double (.ofInt n) (.ofFloat x)
  | truth {b : Bool} {x : Binary64}
      (hsame : (Number.int (if b then 1 else 0)).same (.float x) = true) :
      Holds .double (.bool b) (.ofFloat x)
  | text {v : Value} {s : String} (hgiven : v.isNull = false) (htext : v.text = .ok s) :
      Holds .string v (.string s)

/-- A cell is null for null only. -/
theorem CellType.Holds.eq_null_iff {type : CellType} {v cell : Value} (h : type.Holds v cell) :
    cell = .null ↔ v = .null := by
  cases h with
  | null | bool _ | int64 _ | fraction _ | whole _ | truth _ => simp [Value.ofInt, Value.ofFloat]
  | text hgiven _ =>
      refine iff_of_false Value.noConfusion ?_
      rintro rfl
      cases hgiven

namespace Binary64

theorem eq_of_finite? {x y : Binary64} (h : x.finite? = some y) : y = x := by
  cases x with
  | finite negative units => exact (Option.some.inj h).symm
  | nan | spelledNan | infinite _ => cases h

/-- An integer that is exact by its size is equal to its double-precision number. -/
theorem exists_ofInt?_same {n : Int} (h : StorageType.isExactDouble n = true) :
    ∃ x, ofInt? n = some x ∧ (Number.int n).same (.float x) = true := by
  have hbound : n.natAbs ≤ 2 ^ 53 := by
    rw [StorageType.isExactDouble, powerOfTwo_eq] at h
    simp only [Bool.and_eq_true, decide_eq_true_eq] at h
    omega
  have hrange : InRange n := hbound.trans_lt (by decide +kernel)
  obtain ⟨x, hx⟩ := Option.isSome_iff_exists.mp ((ofInt?_isSome_iff n).mpr hrange)
  have hself := nearestWhole_eq_self_iff.mpr (exact_of_le hbound)
  have hsmall : n.natAbs < 2 ^ 1024 := hbound.trans_lt (by decide +kernel)
  refine ⟨x, hx, ?_⟩
  rw [eq_of_finite? hx]
  exact (Number.same_ofRatio_whole n n).mpr ⟨hself.symm, hsmall⟩

end Binary64

/-- Storing values comes to nothing but storing if each of them fits. -/
theorem Fit.first_eq_fits {fits : List Fit} : first fits = .fits ↔ ∀ fit ∈ fits, fit = .fits := by
  induction fits with
  | nil => exact iff_of_true rfl (fun _ h => nomatch h)
  | cons fit fits ih =>
      rw [List.forall_mem_cons, ← ih]
      cases fit with
      | fits => exact (and_iff_right rfl).symm
      | misfit | overflow | unwritable _ => exact iff_of_false nofun nofun

section Columns

variable {name : String} {values : List Value} {column : TableColumn}

/-- A truth value makes a double-precision number too. -/
theorem exists_truth_same (b : Bool) :
    ∃ x, Binary64.ofInt? (if b then 1 else 0) = some x ∧
      (Number.int (if b then 1 else 0)).same (.float x) = true := by
  apply Binary64.exists_ofInt?_same
  cases b <;> decide

/-- A value that fits among fractions is a cell of its column as a fraction. -/
theorem holds_toDoubleCell {v : Value} (h : StorageType.double.fit v = .fits) :
    CellType.double.Holds v v.toDoubleCell := by
  cases v with
  | null => exact .null _
  | bool b =>
      obtain ⟨x, hx, hsame⟩ := exists_truth_same b
      rw [Value.toDoubleCell, hx]
      exact .truth hsame
  | number n =>
      cases n with
      | float x => exact .fraction x
      | int n =>
          have hexact : StorageType.isExactDouble n = true := by
            by_contra hlarge
            rw [StorageType.fit, if_neg hlarge] at h
            cases h
          obtain ⟨x, hx, hsame⟩ := Binary64.exists_ofInt?_same hexact
          rw [Value.toDoubleCell, hx]
          exact .whole hsame
  | string _ | array _ | object _ => rw [StorageType.fit] at h <;> cases h

theorem holds_toTextCell {v cell : Value} (h : v.toTextCell = .ok cell) :
    CellType.string.Holds v cell := by
  unfold Value.toTextCell at h
  split at h
  · rename_i hnull
    obtain rfl := pure_eq_ok.mp h
    cases v with
    | null => exact .null _
    | bool _ | number _ | string _ | array _ | object _ => cases hnull
  · rename_i hgiven
    obtain ⟨s, hs, hcell⟩ := bind_eq_ok.mp h
    rw [← pure_eq_ok.mp hcell]
    exact .text (Bool.eq_false_iff.mpr hgiven) hs

theorem TableColumn.ofTexts_holds (h : ofTexts name values = .ok column) :
    column.name = name ∧ List.Forall₂ column.type.Holds values column.cells := by
  obtain ⟨cells, hcells, hrest⟩ := bind_eq_ok.mp h
  obtain ⟨-, -, hcolumn⟩ := bind_eq_ok.mp hrest
  obtain rfl := pure_eq_ok.mp hcolumn
  exact ⟨rfl, (mapM_eq_ok.mp hcells).imp fun _ _ hcell => holds_toTextCell hcell⟩

/-- The type of the column of values that are stored as they are. -/
def StorageType.plain? : StorageType → Option CellType
  | .bool => some .bool
  | .int64 => some .int64
  | .string | .null => some .string
  | .double | .list _ | .struct _ => none

theorem holds_self {storage : StorageType} {type : CellType} (hplain : storage.plain? = some type)
    {v : Value} (h : storage.fit v = .fits) : type.Holds v v := by
  cases v with
  | null => exact .null type
  | bool b =>
      cases storage with
      | bool => exact Option.some.inj hplain ▸ .bool b
      | null | int64 | double | string | list _ | struct _ => cases hplain <;> cases h
  | number n =>
      cases storage with
      | int64 =>
          cases n with
          | float x => cases h
          | int n =>
              have hrange : StorageType.isInt64 n = true := by
                by_contra hlarge
                rw [StorageType.fit, if_neg hlarge] at h
                cases h
              exact Option.some.inj hplain ▸ .int64 hrange
      | null | bool | double | string | list _ | struct _ => cases hplain <;> cases n <;> cases h
  | string s =>
      cases storage with
      | string => exact Option.some.inj hplain ▸ .text rfl rfl
      | null | bool | int64 | double | list _ | struct _ => cases hplain <;> cases h
  | array _ | object _ => cases storage <;> cases hplain <;> cases h

theorem TableColumn.ofFitting_holds {storage : StorageType}
    (hfits : ∀ v ∈ values, storage.fit v = .fits)
    (h : ofFitting name values storage = .ok column) :
    column.name = name ∧ List.Forall₂ column.type.Holds values column.cells := by
  cases storage with
  | bool | int64 | string | null =>
      obtain rfl := pure_eq_ok.mp h
      exact ⟨rfl, List.forall₂_same.mpr fun v hv => holds_self rfl (hfits v hv)⟩
  | double =>
      obtain rfl := pure_eq_ok.mp h
      refine ⟨rfl, List.forall₂_map_right_iff.mpr (List.forall₂_same.mpr fun v hv => ?_)⟩
      exact holds_toDoubleCell (hfits v hv)
  | list _ | struct _ => exact ofTexts_holds h

/-- The column of some values has one cell for each of them. -/
theorem TableColumn.ofValues_holds (h : ofValues name values = .ok column) :
    column.name = name ∧ List.Forall₂ column.type.Holds values column.cells := by
  unfold ofValues at h
  split at h
  · exact ofTexts_holds h
  · split at h
    · rename_i storage _ hfirst
      have hall := Fit.first_eq_fits.mp hfirst
      exact ofFitting_holds (fun v hv => hall _ (List.mem_map_of_mem hv)) h
    · exact ofTexts_holds h
    · cases h
    · cases h

end Columns

section Rows

variable {rows : List Record} {t : Table}

theorem Table.ofRows_eq_ok : ofRows rows = .ok t ↔
    List.Forall₂ (fun name column =>
      TableColumn.ofValues name (rows.map fun row => row.get name) = .ok column)
        (columnNames rows) t ∧
    requireWritable (columnNames rows) = .ok () := by
  rw [ofRows, bind_eq_ok]
  constructor
  · rintro ⟨columns, hcolumns, hrest⟩
    obtain ⟨⟨⟩, hnames, ht⟩ := bind_eq_ok.mp hrest
    obtain rfl := pure_eq_ok.mp ht
    exact ⟨mapM_eq_ok.mp hcolumns, hnames⟩
  · rintro ⟨hcolumns, hnames⟩
    exact ⟨t, mapM_eq_ok.mpr hcolumns, bind_eq_ok.mpr ⟨(), hnames, rfl⟩⟩

/-- The columns of the table of some rows have their names, and one cell for each row. -/
theorem Table.ofRows_holds (h : ofRows rows = .ok t) :
    t.map TableColumn.name = columnNames rows ∧
      ∀ column ∈ t, List.Forall₂ (fun row cell => column.type.Holds (row.get column.name) cell)
        rows column.cells := by
  obtain ⟨hcolumns, -⟩ := ofRows_eq_ok.mp h
  refine ⟨?_, fun column hcolumn => ?_⟩
  · rw [← List.forall₂_eq_eq_eq, List.forall₂_map_left_iff]
    exact hcolumns.flip.imp fun _ _ hcolumn => (TableColumn.ofValues_holds hcolumn).1
  · obtain ⟨name, -, hvalues⟩ := exists_of_forall₂ hcolumns hcolumn
    obtain ⟨rfl, hcells⟩ := TableColumn.ofValues_holds hvalues
    exact List.forall₂_map_left_iff.mp hcells

theorem Table.length_cells (h : ofRows rows = .ok t) {column : TableColumn} (hcolumn : column ∈ t) :
    column.cells.length = rows.length :=
  ((ofRows_holds h).2 column hcolumn).length_eq.symm

theorem Table.height_eq (h : ofRows rows = .ok t) (hne : t ≠ []) : t.height = rows.length := by
  cases t with
  | nil => exact absurd rfl hne
  | cons column later => exact length_cells h List.mem_cons_self

/-- The columns of a table are the keys of the rows in the order in which they are first met, each
once. A column has one cell for each row, in the order of the rows. The cell is null exactly if
the row lacks the key or has null there, and otherwise it holds the value that the row has, in the
way that the type of the column tells. -/
theorem Table.ofRows_keeps (h : ofRows rows = .ok t) :
    t.map TableColumn.name = (rows.flatMap Record.keys).eraseDups ∧
    (t.map TableColumn.name).Nodup ∧
    ∀ column ∈ t, List.Forall₂ (fun row cell =>
      (cell = .null ↔ row.get? column.name = none ∨ row.get? column.name = some .null) ∧
        ∀ v, row.get? column.name = some v → column.type.Holds v cell) rows column.cells := by
  obtain ⟨hcolumns, -⟩ := ofRows_eq_ok.mp h
  have hnames : t.map TableColumn.name = (rows.flatMap Record.keys).eraseDups := by
    rw [← columnNames_eq, ← List.forall₂_eq_eq_eq, List.forall₂_map_left_iff]
    exact hcolumns.flip.imp fun _ _ hcolumn => (TableColumn.ofValues_holds hcolumn).1
  refine ⟨hnames, ?_, fun column hcolumn => ?_⟩
  · rw [hnames, ← columnNames_eq]
    exact columnNames_nodup rows
  · obtain ⟨name, -, hvalues⟩ := exists_of_forall₂ hcolumns hcolumn
    obtain ⟨rfl, hcells⟩ := TableColumn.ofValues_holds hvalues
    refine (List.forall₂_map_left_iff.mp hcells).imp fun row cell hcell => ⟨?_, fun v hv => ?_⟩
    · rw [hcell.eq_null_iff, Record.get]
      cases row.get? column.name <;> simp
    · rwa [Record.get, hv] at hcell

/-- Ragged rows make a column of fractions, one of texts and one of nulls only. -/
theorem Table.ofRows_keeps_ragged :
    let half : Binary64 := .finite false (powerOfTwo 1073)
    let rows : List Record := [[("a", .ofInt 3), ("b", .string "x")], [("b", .bool true)],
      [("c", .null), ("a", .ofFloat half)]]
    ∃ t, ofRows rows = .ok t ∧ t.map TableColumn.name = ["a", "b", "c"] ∧
      t.map TableColumn.type = [.double, .string, .string] ∧
      ∀ column ∈ t, List.Forall₂ (fun row cell =>
        (cell = .null ↔ row.get? column.name = none ∨ row.get? column.name = some .null) ∧
          ∀ v, row.get? column.name = some v → column.type.Holds v cell) rows column.cells := by
  intro half rows
  have htypes : (ofRows rows).toOption.map (fun t => t.map TableColumn.type) =
      some [.double, .string, .string] := by
    decide +kernel
  obtain ⟨t, ht, htypes⟩ := Option.map_eq_some_iff.mp htypes
  have htable := toOption_eq_some.mp ht
  obtain ⟨hnames, -, hcells⟩ := ofRows_keeps htable
  exact ⟨t, htable, hnames.trans (by decide), htypes, hcells⟩

/-- Behind a fraction a truth value becomes a number, which is neither the value nor its text. -/
theorem Table.ofRows_truth_as_number :
    let half : Binary64 := .finite false (powerOfTwo 1073)
    let rows : List Record := [[("v", .ofFloat half)], [("v", .bool true)]]
    ∃ t, ofRows rows = .ok t ∧ ∃ column ∈ t, ¬ List.Forall₂ (fun row cell =>
      ∀ v, row.get? column.name = some v → cell = v ∨
        (∃ n x, v = .ofInt n ∧ cell = .ofFloat x ∧ (Number.int n).same (.float x) = true) ∨
        ∃ s, v.text = .ok s ∧ cell = .string s) rows column.cells := by
  intro half rows
  have hcells : (ofRows rows).toOption.map (fun t => t.map fun column =>
        (column.name, column.cells.map Value.number?)) =
      some [("v", [some (.float half), some (.float (.finite false (powerOfTwo 1074)))])] := by
    decide +kernel
  obtain ⟨t, ht, hcells⟩ := Option.map_eq_some_iff.mp hcells
  obtain ⟨column, rfl, hcolumn⟩ := List.map_eq_singleton_iff.mp hcells
  obtain ⟨hname, hcells⟩ := Prod.mk.inj hcolumn
  refine ⟨[column], toOption_eq_some.mp ht, column, List.mem_singleton_self _, fun hall => ?_⟩
  obtain ⟨_, _, -, hlater, hfirst⟩ := List.forall₂_cons_left_iff.mp hall
  obtain ⟨cell, _, hcell, -, rfl⟩ := List.forall₂_cons_left_iff.mp hlater
  rw [hfirst, List.map_cons, List.map_cons, List.cons_eq_cons, List.cons_eq_cons] at hcells
  have hnumber := hcells.2.1
  rcases hcell (.bool true) (by rw [hname]; rfl) with rfl | ⟨_, _, ⟨⟩, -⟩ | ⟨_, -, rfl⟩
  · cases hnumber
  · cases hnumber

end Rows

end JsonQuery
