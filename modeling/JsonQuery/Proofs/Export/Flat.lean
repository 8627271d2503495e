import JsonQuery.Export.Rows
import JsonQuery.Proofs.Query.FlatAnswer

/-!
The rows of an export. Objects and arrays are taken apart on the way down, and what is left in a
row are scalars, so every row is flat. A flat row has nothing to be taken apart and is its own row
for export. The rows of an answer to a query are flat already and are exported as they are.
-/

namespace JsonQuery

open Outcome

section Members

/-- Writing a scalar into a row is all that an export does with it. -/
theorem Value.exportInto_scalar {v : Value} (hv : v.isScalar = true) (row : Record)
    (path : String) : v.exportInto row path = .ok (row.put path v) := by
  cases v with
  | array items => exact absurd hv Bool.false_ne_true
  | object members => exact absurd hv Bool.false_ne_true
  | null | bool _ | number _ | string _ => rfl

mutual

/-- Writing a value into a flat row gives a flat row. -/
theorem Value.exportInto_isFlat (v : Value) {row out : Record} {path : String}
    (hrow : row.IsFlat) (h : v.exportInto row path = .ok out) : out.IsFlat := by
  match v with
  | .object members =>
      rw [Value.exportInto] at h
      obtain ⟨inner, hinner, hout⟩ := bind_eq_ok.mp h
      rw [← pure_eq_ok.mp hout]
      exact hrow.putAll (exportMembers_isFlat members .nil hinner).scalar
  | .array [] =>
      rw [Value.exportInto] at h
      rw [← pure_eq_ok.mp h]
      exact hrow.put rfl
  | .array (item :: items) =>
      rw [Value.exportInto] at h
      obtain ⟨text, -, hout⟩ := bind_eq_ok.mp h
      rw [← pure_eq_ok.mp hout]
      exact hrow.put rfl
  | .null | .bool _ | .number _ | .string _ =>
      rw [Value.exportInto_scalar rfl] at h
      rw [← Except.ok.inj h]
      exact hrow.put rfl

/-- Writing members into a flat row gives a flat row. -/
theorem exportMembers_isFlat (members : List (String × Value)) {row out : Record}
    {path : String} (hrow : row.IsFlat) (h : exportMembers row path members = .ok out) :
    out.IsFlat := by
  match members with
  | [] =>
      rw [exportMembers] at h
      rw [← pure_eq_ok.mp h]
      exact hrow
  | (key, item) :: members =>
      rw [exportMembers] at h
      obtain ⟨next, hitem, hrest⟩ := bind_eq_ok.mp h
      exact exportMembers_isFlat members (item.exportInto_isFlat hrow hitem) hrest

end

theorem joinDotted_empty (key : String) : joinDotted "" key = key := if_pos rfl

/-- An export adds the members of a flat row behind those that are there. -/
theorem exportMembers_of_isFlat {row members : Record} (h : Record.IsFlat (row ++ members)) :
    exportMembers row "" members = .ok (row ++ members) := by
  induction members generalizing row with
  | nil =>
      rw [exportMembers, List.append_nil]
      rfl
  | cons m members ih =>
      obtain ⟨key, item⟩ := m
      obtain ⟨hitem, hput⟩ := h.put_next
      have hstep : item.exportInto row (joinDotted "" key) = .ok (row ++ [(key, item)]) := by
        rw [item.exportInto_scalar hitem, joinDotted_empty, hput]
      rw [List.append_cons] at h ⊢
      rw [exportMembers, hstep, ok_bind]
      exact ih h

end Members

section Rows

variable {row : Record} {rows : List Record}

theorem exportRow_isFlat {element : Value} (h : exportRow element = .ok row) : row.IsFlat := by
  unfold exportRow at h
  split at h
  · exact exportMembers_isFlat _ .nil h
  · exact exportMembers_isFlat _ .nil h
  · rename_i hobject harray
    rw [← pure_eq_ok.mp h]
    refine Record.IsFlat.cons_iff.mpr ⟨List.not_mem_nil, ?_, .nil⟩
    cases element with
    | object members => exact absurd rfl (hobject members)
    | array items => exact absurd rfl (harray items)
    | null | bool _ | number _ | string _ => rfl

/-- A flat row is its own row for export. -/
theorem exportRow_of_isFlat (h : row.IsFlat) : exportRow (.object row) = .ok row := by
  have hwhole : Record.IsFlat ([] ++ row) := h
  exact exportMembers_of_isFlat hwhole

/-- What an export makes rows of: the elements of an array, and any other value as it is. -/
def Value.exported : Value → List Value
  | .array items => items
  | v => [v]

theorem exportRows_eq_mapM (data : Value) : exportRows data = data.exported.mapM exportRow := by
  have hone (v : Value) : [v].mapM exportRow = exportRow v >>= fun row => .ok [row] := by
    rw [List.mapM_cons]
    rfl
  cases data with
  | array items => rfl
  | null | bool _ | number _ | string _ | object _ => exact (hone _).symm

/-- Flat rows are their own rows for export. -/
theorem exportRows_of_isFlat (h : ∀ row ∈ rows, row.IsFlat) :
    exportRows (rowsValue rows) = .ok rows := by
  rw [exportRows_eq_mapM, mapM_eq_ok]
  refine List.forall₂_map_left_iff.mpr (List.forall₂_same.mpr fun row hrow => ?_)
  exact exportRow_of_isFlat (h row hrow)

end Rows

/-- An export of an array has one row for each element, in their order, and an export of anything
else has one row. Each of them is the row that the element has when it is exported by itself. The
rows are flat, and when they are exported they come out again, with their keys in their order. So
do the rows of every answer to a query. -/
theorem exportRows_stable :
    (∀ (data : Value) (rows : List Record), exportRows data = .ok rows →
      List.Forall₂ (fun element row => exportRows (.array [element]) = .ok [row])
        data.exported rows ∧
      (∀ row ∈ rows, row.IsFlat) ∧ exportRows (rowsValue rows) = .ok rows) ∧
    ∀ (raw : Value) (url : Option String) (d : Dataset) (grouping : Bool) (text : String)
      (r : QueryResult), Dataset.ofValue raw url = .ok d →
      execute grouping (some d) text = .ok r → exportRows (rowsValue r.rows) = .ok r.rows := by
  constructor
  · intro data rows h
    have heach : List.Forall₂ (fun element row => exportRow element = .ok row)
        data.exported rows := mapM_eq_ok.mp (exportRows_eq_mapM data ▸ h)
    have hflat : ∀ row ∈ rows, row.IsFlat := by
      intro row hrow
      obtain ⟨element, -, helement⟩ := exists_of_forall₂ heach hrow
      exact exportRow_isFlat helement
    refine ⟨heach.imp fun element row helement => ?_, hflat, exportRows_of_isFlat hflat⟩
    exact mapM_eq_ok.mpr (.cons helement .nil)
  · intro raw url d grouping text r hd hexecute
    exact exportRows_of_isFlat (execute_isFlat hd hexecute)

/-- Of an array, an object with two ways to one key and a text, each makes a row of its own. Keys
that hold a dot or are empty come through a query and an export unchanged. -/
theorem exportRows_stable_keys :
    let data : Value := .array [.array [.null, .object [("x", .bool true)]],
      .object [("a.b", .null), ("c", .bool false), ("a", .object [("b", .array [])])], .string "s"]
    let rows : List Record := [[("0", .null), ("1.x", .bool true)],
      [("a.b", .string ""), ("c", .bool false)], [("value", .string "s")]]
    let raw : Value := .array [.object [("", .string "x"), ("a.b", .null)]]
    let answer : List Record := [[("", .string "x"), ("a.b", .null)]]
    exportRows data = .ok rows ∧ exportRows (rowsValue rows) = .ok rows ∧
      ∃ d, Dataset.ofValue raw none = .ok d ∧
        execute true (some d) "SELECT * FROM data" = .ok ⟨answer, []⟩ ∧
        exportRows (rowsValue answer) = .ok answer := by
  intro data rows raw answer
  let q : Query := { text := "SELECT * FROM data", projection := .everything, source := some "data"
                     condition := none, grouping := [], order := none, limit := none
                     warnings := [] }
  have hdata : exportRows data = .ok rows := by cbv
  have hd : Dataset.ofValue raw none = .ok ⟨raw, none, .ok answer⟩ := by cbv
  have hparse : Query.parse "SELECT * FROM data" = .ok q := by
    apply toOption_eq_some.mp
    decide +kernel
  have hexecute : execute true (some ⟨raw, none, .ok answer⟩) "SELECT * FROM data" =
      .ok ⟨answer, []⟩ := by
    rw [execute, hparse]
    cbv
  obtain ⟨-, -, hagain⟩ := exportRows_stable.1 data rows hdata
  exact ⟨hdata, hagain, _, hd, hexecute, exportRows_stable.2 _ _ _ _ _ _ hd hexecute⟩

end JsonQuery
