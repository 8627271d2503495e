import JsonQuery.Proofs.Dataset.Flat
import JsonQuery.Proofs.Value.Record
import Mathlib.Tactic

/-!
The leaves of a record, and flattening as writing them down. A leaf is a value that is no object,
with the keys that lead to it. Flattening writes the leaves one after the other, in the order in
which they are met on a walk through the record, each under the joined keys of its path. An object
inside the record is flattened into a row of its own first and then merged in, but that makes no
difference: merging in a row is writing the leaves it was made of.
-/

namespace JsonQuery

open Outcome

/-- A value of a record that is no object, and the keys on the way to it, the outermost first. -/
structure Leaf where
  path : List String
  value : Value

mutual

/-- The leaves of a value that stands at the end of a path. -/
def Value.leaves (path : List String) : Value → List Leaf
  | .object members => memberLeaves path members
  | value => [⟨path, value⟩]

/-- The leaves of members below a path, member by member. -/
def memberLeaves (path : List String) : List (String × Value) → List Leaf
  | [] => []
  | (key, item) :: members => item.leaves (path ++ [key]) ++ memberLeaves path members

end

/-- The leaves of a record. -/
def Record.leaves (r : Record) : List Leaf := memberLeaves [] r

/-- The key of a leaf in a flat row: the keys of its path without the empty ones at the beginning,
joined by underscores. -/
def pathKey (path : List String) : String := "_".intercalate (path.dropWhile String.isEmpty)

/-- What a flat row holds for a leaf: for an array the texts of its items, joined by commas, and
otherwise the value of the leaf. -/
inductive Value.KeptAs : Value → Value → Prop
  | texts {items : List Value} {texts : List String}
      (h : List.Forall₂ (fun item text => item.text = .ok text) items texts) :
      KeptAs (.array items) (.string (", ".intercalate texts))
  | scalar {v : Value} (h : v.isScalar = true) : KeptAs v v

/-- What is written into a flat row for a leaf. -/
def Leaf.Writes (leaf : Leaf) (entry : String × Value) : Prop :=
  entry.1 = pathKey leaf.path ∧ leaf.value.KeptAs entry.2

section Path

/-- Only a path of empty keys has an empty key. -/
theorem pathKey_eq_empty {path : List String} :
    pathKey path = "" ↔ path.dropWhile String.isEmpty = [] := by
  unfold pathKey
  constructor
  · intro h
    cases hkeys : path.dropWhile String.isEmpty with
    | nil => rfl
    | cons first later =>
        have hfirst : first.isEmpty = false := by
          have hhead := List.head?_dropWhile_not String.isEmpty path
          rwa [hkeys] at hhead
        rw [hkeys] at h
        cases later with
        | nil =>
            rw [String.intercalate_singleton] at h
            rw [h] at hfirst
            cases hfirst
        | cons second later =>
            rw [String.intercalate_cons_cons, String.append_eq_empty_iff,
              String.append_eq_empty_iff] at h
            exact absurd h.1.2 (by decide)
  · intro h
    rw [h]
    rfl

/-- A key below a path is joined to the key of the path. -/
theorem joinPath_pathKey (path : List String) (key : String) :
    joinPath (pathKey path) key = pathKey (path ++ [key]) := by
  unfold joinPath
  split
  · rename_i hempty
    have hnone := pathKey_eq_empty.mp (String.isEmpty_iff.mp hempty)
    rw [pathKey, List.dropWhile_append, hnone]
    by_cases hkey : key = ""
    · simp [hkey]
    · simp [String.isEmpty_iff, hkey]
  · rename_i hfull
    have hkeys : path.dropWhile String.isEmpty ≠ [] := fun hnone =>
      hfull (String.isEmpty_iff.mpr (pathKey_eq_empty.mpr hnone))
    rw [pathKey, pathKey, List.dropWhile_append, if_neg (by simpa using hkeys),
      String.intercalate_append_of_ne_nil hkeys (List.cons_ne_nil _ _),
      String.intercalate_singleton]

end Path

section Writing

variable {v : Value} {row out : Record} {path : List String}

theorem Value.itemsText_eq_ok {items : List Value} {text : String} :
    itemsText items = .ok text ↔ ∃ texts,
      List.Forall₂ (fun item text => item.text = .ok text) items texts ∧
        text = ", ".intercalate texts := by
  rw [itemsText, bind_eq_ok]
  refine exists_congr fun texts => ?_
  rw [mapM_eq_ok, pure_eq_ok, eq_comm (a := text)]

/-- A value that is no object is its only leaf. -/
theorem Value.leaves_of_ne_object (hobject : ∀ members, v ≠ .object members) :
    v.leaves path = [⟨path, v⟩] := by
  rw [leaves]
  exact fun members h => hobject members h

/-- What flattening does with a value that is no object is to put what is kept of it. -/
theorem Value.flattenInto_eq_put (hobject : ∀ members, v ≠ .object members) (key : String) :
    v.flattenInto row key = .ok out ↔ ∃ kept, v.KeptAs kept ∧ out = row.put key kept := by
  cases v with
  | object members => exact absurd rfl (hobject members)
  | array items =>
      rw [flattenInto, bind_eq_ok]
      constructor
      · rintro ⟨text, htext, hout⟩
        obtain ⟨texts, htexts, rfl⟩ := itemsText_eq_ok.mp htext
        exact ⟨_, .texts htexts, (pure_eq_ok.mp hout).symm⟩
      · rintro ⟨kept, hkept, rfl⟩
        cases hkept with
        | texts htexts => exact ⟨_, itemsText_eq_ok.mpr ⟨_, htexts, rfl⟩, rfl⟩
        | scalar h => cases h
  | null | bool _ | number _ | string _ =>
      rw [flattenInto_scalar rfl]
      constructor
      · intro h
        exact ⟨_, .scalar rfl, (Except.ok.inj h).symm⟩
      · rintro ⟨kept, ⟨⟩, rfl⟩
        rfl

/-- Flattening a value that is no object writes its only leaf. -/
theorem Value.flattenInto_leaf (hobject : ∀ members, v ≠ .object members) :
    v.flattenInto row (pathKey path) = .ok out ↔
      ∃ entries, List.Forall₂ Leaf.Writes (v.leaves path) entries ∧ out = row.putAll entries := by
  rw [flattenInto_eq_put hobject, leaves_of_ne_object hobject]
  constructor
  · rintro ⟨kept, hkept, rfl⟩
    exact ⟨[(pathKey path, kept)], .cons ⟨rfl, hkept⟩ .nil, rfl⟩
  · rintro ⟨entries, hentries, rfl⟩
    obtain ⟨⟨key, kept⟩, rest, ⟨hkey, hkept⟩, hrest, rfl⟩ := List.forall₂_cons_left_iff.mp hentries
    obtain rfl := List.forall₂_nil_left_iff.mp hrest
    obtain rfl : key = pathKey path := hkey
    exact ⟨kept, hkept, rfl⟩

mutual

/-- Flattening a value writes its leaves, one after the other. -/
theorem Value.flattenInto_eq_ok (v : Value) (row out : Record) (path : List String) :
    v.flattenInto row (pathKey path) = .ok out ↔
      ∃ entries, List.Forall₂ Leaf.Writes (v.leaves path) entries ∧ out = row.putAll entries := by
  match v with
  | .object members =>
      rw [Value.flattenInto, Value.leaves, bind_eq_ok]
      constructor
      · rintro ⟨inner, hinner, hout⟩
        obtain ⟨entries, hentries, rfl⟩ :=
          (flattenMembers_eq_ok members [] inner path).mp hinner
        refine ⟨entries, hentries, ?_⟩
        rw [← pure_eq_ok.mp hout, Record.putAll_putAll_nil]
      · rintro ⟨entries, hentries, rfl⟩
        refine ⟨_, (flattenMembers_eq_ok members [] _ path).mpr ⟨entries, hentries, rfl⟩, ?_⟩
        rw [Record.putAll_putAll_nil]
        rfl
  | .array _ | .null | .bool _ | .number _ | .string _ =>
      exact Value.flattenInto_leaf (fun _ h => by cases h)

/-- Flattening members writes their leaves, one after the other. -/
theorem flattenMembers_eq_ok (members : List (String × Value)) (row out : Record)
    (path : List String) :
    flattenMembers row (pathKey path) members = .ok out ↔
      ∃ entries, List.Forall₂ Leaf.Writes (memberLeaves path members) entries ∧
        out = row.putAll entries := by
  match members with
  | [] =>
      rw [flattenMembers, memberLeaves, pure_eq_ok]
      constructor
      · rintro rfl
        exact ⟨[], .nil, rfl⟩
      · rintro ⟨entries, hentries, rfl⟩
        rw [List.forall₂_nil_left_iff.mp hentries]
        rfl
  | (key, item) :: members =>
      rw [flattenMembers, memberLeaves, bind_eq_ok, joinPath_pathKey]
      constructor
      · rintro ⟨next, hitem, hmembers⟩
        obtain ⟨first, hfirst, rfl⟩ := (item.flattenInto_eq_ok row next _).mp hitem
        obtain ⟨later, hlater, rfl⟩ := (flattenMembers_eq_ok members _ out path).mp hmembers
        exact ⟨first ++ later, forall₂_append_left_iff.mpr ⟨first, later, hfirst, hlater, rfl⟩,
          (Record.putAll_append row first later).symm⟩
      · rintro ⟨entries, hentries, rfl⟩
        obtain ⟨first, later, hfirst, hlater, rfl⟩ := forall₂_append_left_iff.mp hentries
        exact ⟨_, (item.flattenInto_eq_ok row _ _).mpr ⟨first, hfirst, rfl⟩,
          (flattenMembers_eq_ok members _ _ path).mpr
            ⟨later, hlater, Record.putAll_append row first later⟩⟩

end

mutual

theorem Value.leaf_ne_object (v : Value) (path : List String) :
    ∀ leaf ∈ v.leaves path, ∀ members, leaf.value ≠ .object members := by
  match v with
  | .object members =>
      rw [Value.leaves]
      exact memberLeaf_ne_object members path
  | .array _ | .null | .bool _ | .number _ | .string _ =>
      rw [Value.leaves_of_ne_object (fun _ h => by cases h)]
      rintro leaf hleaf members hvalue
      rw [List.mem_singleton.mp hleaf] at hvalue
      cases hvalue

theorem memberLeaf_ne_object (members : List (String × Value)) (path : List String) :
    ∀ leaf ∈ memberLeaves path members, ∀ inner, leaf.value ≠ .object inner := by
  match members with
  | [] =>
      rw [memberLeaves]
      exact fun _ hleaf => absurd hleaf List.not_mem_nil
  | (key, item) :: members =>
      rw [memberLeaves]
      intro leaf hleaf
      rcases List.mem_append.mp hleaf with hitem | hlater
      · exact item.leaf_ne_object _ leaf hitem
      · exact memberLeaf_ne_object members path leaf hlater

end

/-- Something is written for a value that is no object, as long as the items of an array have
texts. -/
theorem Value.exists_keptAs (hobject : ∀ members, v ≠ .object members)
    (harray : ∀ items, v = .array items → ∀ item ∈ items, ∃ text, item.text = .ok text) :
    ∃ kept, v.KeptAs kept := by
  cases v with
  | object members => exact absurd rfl (hobject members)
  | array items =>
      obtain ⟨texts, htexts⟩ := exists_forall₂ (harray items rfl)
      exact ⟨_, .texts htexts⟩
  | null | bool _ | number _ | string _ => exact ⟨_, .scalar rfl⟩

end Writing

/-- A record whose arrays all have texts can be flattened. Its flat row is what comes of writing
the leaves one after the other into an empty row: the keys stand in the order in which they were
written first, and under each stands what was written there last. The row is its own flat row. -/
theorem Record.flatten_writes_leaves {r : Record}
    (harrays : ∀ leaf ∈ r.leaves, ∀ items, leaf.value = .array items →
      ∀ item ∈ items, ∃ text, item.text = .ok text) :
    ∃ entries row, List.Forall₂ Leaf.Writes r.leaves entries ∧ r.flatten "" = .ok row ∧
      row = Record.putAll [] entries ∧
      row.keys = (r.leaves.map fun leaf => pathKey leaf.path).eraseDups ∧
      (∀ key, row.get? key = get? entries.reverse key) ∧
      row.flatten "" = .ok row := by
  have hkept : ∀ leaf ∈ r.leaves, ∃ entry, leaf.Writes entry := by
    intro leaf hleaf
    obtain ⟨kept, hkept⟩ := Value.exists_keptAs (memberLeaf_ne_object r [] leaf hleaf)
      (harrays leaf hleaf)
    exact ⟨(pathKey leaf.path, kept), rfl, hkept⟩
  obtain ⟨entries, hentries⟩ := exists_forall₂ hkept
  have hrow : r.flatten "" = .ok (Record.putAll [] entries) :=
    (flattenMembers_eq_ok r [] _ []).mpr ⟨entries, hentries, rfl⟩
  have hkeys : keys entries = r.leaves.map fun leaf => pathKey leaf.path := by
    have hsame : List.Forall₂ (fun leaf entry => pathKey leaf.path = entry.1) r.leaves entries :=
      hentries.imp fun _ _ h => h.1.symm
    rw [keys, ← List.forall₂_eq_eq_eq, List.forall₂_map_left_iff,
      List.forall₂_map_right_iff]
    exact hsame.flip.imp fun _ _ h => h.symm
  refine ⟨entries, _, hentries, hrow, rfl, ?_, ?_, ?_⟩
  · rw [keys_putAll, hkeys]
    simp [Record.keys]
  · intro key
    rw [get?_putAll, get?_nil, Option.or_none]
  · exact flatten_of_isFlat (flattenMembers_isFlat r .nil hrow)

/-- Two leaves of this record share the key `a_b` and two the key `c`: each key keeps its first
place and its last value. The empty object below `a` leaves no trace. -/
theorem Record.flatten_shared_keys :
    ∃ row, flatten [("a", .object [("b", .array [.null, .string "x"]),
        ("", .object [])]), ("", .object [("c", .null)]), ("a_b", .bool true),
        ("c", .number (.int 5))] "" = .ok row ∧
      row = [("a_b", .bool true), ("c", .number (.int 5))] ∧ row.keys = ["a_b", "c"] ∧
      row.flatten "" = .ok row := by
  obtain ⟨entries, row, hentries, hrow, hput, hkeys, hlast, hagain⟩ := flatten_writes_leaves
    (r := [("a", .object [("b", .array [.null, .string "x"]), ("", .object [])]),
      ("", .object [("c", .null)]), ("a_b", .bool true), ("c", .number (.int 5))]) (by
      simp only [leaves, memberLeaves, Value.leaves, List.nil_append, List.append_nil,
        List.cons_append, List.forall_mem_cons]
      refine ⟨?_, ?_⟩
      · rintro items ⟨⟩
        simp [Value.text, Value.integersFit]
      · simp)
  exact ⟨row, hrow, Except.ok.inj (hrow.symm.trans rfl), hkeys, hagain⟩

end JsonQuery
