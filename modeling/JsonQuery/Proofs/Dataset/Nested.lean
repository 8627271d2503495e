import JsonQuery.Proofs.Dataset.Leaves

/-!
Flattening a part of a record. An object that stands in a record under a key is flattened there as
it is alone, below the path of that key. Its own keys come back by taking away the key and the
underscore, as long as no path begins with an empty key: empty keys at the beginning of a path
leave no mark on the key of a leaf, but behind another key they do.
-/

namespace JsonQuery

open Outcome

variable {path : List String} {before after members : Record} {leaf : Leaf}

/-- The leaf at the end of a longer path. -/
def Leaf.below (path : List String) (leaf : Leaf) : Leaf := { leaf with path := path ++ leaf.path }

/-- The path of a leaf begins with a key that is not empty. -/
def Leaf.BeginsNamed (leaf : Leaf) : Prop := ∃ key ∈ leaf.path.head?, key ≠ ""

section Leaves

mutual

/-- Below a longer path a value has the same leaves, with longer paths. -/
theorem Value.leaves_below (path inner : List String) (v : Value) :
    v.leaves (path ++ inner) = (v.leaves inner).map (Leaf.below path) := by
  match v with
  | .object members =>
      rw [Value.leaves, Value.leaves]
      exact memberLeaves_below path inner members
  | .array _ | .null | .bool _ | .number _ | .string _ =>
      rw [Value.leaves_of_ne_object (by simp), Value.leaves_of_ne_object (by simp)]
      rfl

/-- Below a longer path members have the same leaves, with longer paths. -/
theorem memberLeaves_below (path inner : List String) (members : List (String × Value)) :
    memberLeaves (path ++ inner) members =
      (memberLeaves inner members).map (Leaf.below path) := by
  match members with
  | [] =>
      rw [memberLeaves, memberLeaves]
      rfl
  | (key, item) :: members =>
      rw [memberLeaves, memberLeaves, List.map_append, List.append_assoc,
        Value.leaves_below path (inner ++ [key]) item, memberLeaves_below path inner members]

end

theorem memberLeaves_append (path : List String) (before after : Record) :
    memberLeaves path (before ++ after) = memberLeaves path before ++ memberLeaves path after := by
  induction before with
  | nil =>
      rw [memberLeaves]
      rfl
  | cons member before ih =>
      obtain ⟨key, item⟩ := member
      rw [List.cons_append, memberLeaves, memberLeaves, ih, List.append_assoc]

/-- The leaves of a record are those before an object of it, those of the object, and those behind
it. -/
theorem Record.leaves_member (before after members : Record) (p : String) :
    leaves (before ++ (p, .object members) :: after) =
      leaves before ++ (members.leaves.map (Leaf.below [p]) ++ leaves after) := by
  rw [leaves, memberLeaves_append, memberLeaves, Value.leaves, List.nil_append, leaves, leaves,
    leaves, ← memberLeaves_below, List.append_nil]

/-- Every leaf of a record stands below some key of it. -/
theorem Record.exists_cons_of_mem_leaves {r : Record} (h : leaf ∈ r.leaves) :
    ∃ key rest, leaf.path = key :: rest := by
  rw [leaves] at h
  induction r with
  | nil => simp [memberLeaves] at h
  | cons member r ih =>
      obtain ⟨key, item⟩ := member
      rw [memberLeaves, List.mem_append] at h
      rcases h with hitem | hlater
      · have hbelow := item.leaves_below [key] []
        rw [List.append_nil] at hbelow
        rw [List.nil_append, hbelow] at hitem
        obtain ⟨inner, -, rfl⟩ := List.mem_map.mp hitem
        exact ⟨key, inner.path, rfl⟩
      · exact ih hlater

end Leaves

section Keys

variable {p k : String}

theorem pathKey_singleton (p : String) : pathKey [p] = p := by
  by_cases hp : p = ""
  · subst hp
    rfl
  · simp [pathKey, String.isEmpty_iff, hp]

/-- A path that begins with a key that is not empty is written as it is. -/
theorem pathKey_of_ne {key : String} (hkey : key ≠ "") (rest : List String) :
    pathKey (key :: rest) = "_".intercalate (key :: rest) := by
  rw [pathKey, List.dropWhile_cons_of_neg (by simpa [String.isEmpty_iff] using hkey)]

theorem Leaf.BeginsNamed.pathKey_eq (h : leaf.BeginsNamed) :
    pathKey leaf.path = "_".intercalate leaf.path := by
  obtain ⟨key, hhead, hkey⟩ := h
  obtain ⟨rest, hpath⟩ := List.head?_eq_some_iff.mp hhead
  rw [hpath]
  exact pathKey_of_ne hkey rest

/-- Below a key that is not empty, a leaf is written under the key and its whole path, empty keys
at the beginning of the path included. -/
theorem pathKey_below (hp : p ≠ "") {r : Record} (h : leaf ∈ r.leaves) :
    pathKey (leaf.below [p]).path = p ++ "_" ++ "_".intercalate leaf.path := by
  obtain ⟨key, rest, hpath⟩ := Record.exists_cons_of_mem_leaves h
  change pathKey (p :: leaf.path) = _
  rw [pathKey_of_ne hp, hpath, String.intercalate_cons_cons]

/-- A leaf of an object has the key `k` there exactly if it has the key with the prefix in the
record around it, unless its path begins with an empty key. -/
theorem pathKey_below_eq_iff (hp : p ≠ "") {r : Record} (h : leaf ∈ r.leaves)
    (hnamed : pathKey leaf.path = k ∨ "_".intercalate leaf.path = k → leaf.BeginsNamed) :
    pathKey leaf.path = k ↔ pathKey (leaf.below [p]).path = p ++ "_" ++ k := by
  rw [pathKey_below hp h, String.append_right_inj]
  constructor
  · intro hkey
    rw [← (hnamed (.inl hkey)).pathKey_eq, hkey]
  · intro hkey
    rw [(hnamed (.inr hkey)).pathKey_eq, hkey]

end Keys

section Rows

variable {entries others row : Record} {k k' : String}

/-- Records whose entries have the same values in the same places, those under `k` on one side
being those under `k'` on the other, have the same under `k` and `k'`. -/
theorem Record.get?_eq_of_forall₂
    (h : List.Forall₂ (fun e e' : String × Value => (e.1 = k ↔ e'.1 = k') ∧ e.2 = e'.2)
      entries others) : entries.get? k = others.get? k' := by
  induction h with
  | nil => rfl
  | @cons e e' _ _ he _ ih =>
      obtain ⟨key, v⟩ := e
      obtain ⟨key', v'⟩ := e'
      obtain ⟨hkeys, rfl⟩ : (key = k ↔ key' = k') ∧ v = v' := he
      rw [get?_cons, get?_cons, ih]
      simp only [hkeys]

/-- Writing under other keys leaves what is under a key. -/
theorem Record.get?_putAll_of_ne (row : Record) (h : ∀ e ∈ entries, e.1 ≠ k) :
    (row.putAll entries).get? k = row.get? k := by
  have hnone : get? entries.reverse k = none := by
    rw [get?, List.lookup_eq_none_iff]
    intro e he
    simpa using (h e (List.mem_reverse.mp he)).symm
  rw [get?_putAll, hnone, Option.none_or]

end Rows

section Writing

variable {entries : Record} {pairs : List ((String × Value) × String × Value)} {p : String}

theorem Record.flatten_of_writes (r : Record)
    (h : List.Forall₂ Leaf.Writes (memberLeaves path r) entries) :
    r.flatten (pathKey path) = .ok (putAll [] entries) :=
  (flattenMembers_eq_ok r [] _ path).mpr ⟨entries, h, rfl⟩

theorem Record.exists_writes {r : Record} (h : ∀ leaf ∈ r.leaves, ∃ kept, leaf.value.KeptAs kept) :
    ∃ entries, List.Forall₂ Leaf.Writes r.leaves entries := by
  apply exists_forall₂
  intro leaf hleaf
  obtain ⟨kept, hvalue⟩ := h leaf hleaf
  exact ⟨(pathKey leaf.path, kept), rfl, hvalue⟩

theorem Record.get?_putAll_of_other {r : Record} {key : String}
    (h : List.Forall₂ Leaf.Writes r.leaves entries)
    (hother : ∀ leaf ∈ r.leaves, pathKey leaf.path ≠ key) (row : Record) :
    (row.putAll entries).get? key = row.get? key := by
  apply get?_putAll_of_ne
  intro e he
  obtain ⟨leaf, hleaf, hwrites⟩ := exists_of_forall₂ h he
  rw [hwrites.1]
  exact hother leaf hleaf

/-- What is written for a leaf of an object alone, and for the same leaf in the record around the
object, which stands there under the key `p`. -/
structure Leaf.WritesBoth (p : String) (leaf : Leaf) (pair : (String × Value) × String × Value) :
    Prop where
  alone : leaf.Writes pair.1
  below : (leaf.below [p]).Writes pair.2
  same : pair.1.2 = pair.2.2

theorem Leaf.exists_writesBoth (leaf : Leaf) (p : String) {kept : Value}
    (h : leaf.value.KeptAs kept) : ∃ pair, leaf.WritesBoth p pair :=
  ⟨((pathKey leaf.path, kept), pathKey (leaf.below [p]).path, kept), ⟨rfl, h⟩, ⟨rfl, h⟩, rfl⟩

theorem writes_alone (hpairs : List.Forall₂ (Leaf.WritesBoth p) members.leaves pairs) :
    List.Forall₂ Leaf.Writes (memberLeaves [] members) (pairs.map Prod.fst) :=
  List.forall₂_map_right_iff.mpr (hpairs.imp fun _ _ h => h.alone)

theorem writes_below (hpairs : List.Forall₂ (Leaf.WritesBoth p) members.leaves pairs) :
    List.Forall₂ Leaf.Writes (memberLeaves [p] members) (pairs.map Prod.snd) := by
  rw [← List.append_nil [p], memberLeaves_below, List.forall₂_map_left_iff,
    List.forall₂_map_right_iff]
  exact hpairs.imp fun _ _ h => h.below

/-- The recovered key has in the one row what the key with the prefix has in the other. -/
theorem Record.get?_writesBoth {k : String} (hp : p ≠ "")
    (hpairs : List.Forall₂ (Leaf.WritesBoth p) members.leaves pairs)
    (hnamed : ∀ leaf ∈ members.leaves,
      pathKey leaf.path = k ∨ "_".intercalate leaf.path = k → leaf.BeginsNamed) :
    get? (putAll [] (pairs.map Prod.fst)) k =
      get? (putAll [] (pairs.map Prod.snd)) (p ++ "_" ++ k) := by
  rw [get?_putAll, get?_putAll, get?_nil, get?_nil, Option.or_none, Option.or_none]
  apply get?_eq_of_forall₂
  rw [List.forall₂_reverse_iff, List.forall₂_map_left_iff, List.forall₂_map_right_iff,
    List.forall₂_same]
  intro pair hpair
  obtain ⟨leaf, hleaf, hboth⟩ := exists_of_forall₂ hpairs hpair
  rw [hboth.alone.1, hboth.below.1]
  exact ⟨pathKey_below_eq_iff hp hleaf (hnamed leaf hleaf), hboth.same⟩

end Writing

/-- An object in a record whose arrays all have texts. Under every key that no leaf outside the
object is written under, the flat row of the record has what the object alone, flattened below its
key, has there. So stripping the key of the object and the underscore recovers the keys of the
object with their values, if the key is not empty and no leaf of the object that is written under
the recovered key, or whose path is joined to it, begins with an empty key. -/
theorem Record.flatten_member {p : String}
    (harrays : ∀ leaf ∈ leaves (before ++ (p, .object members) :: after), ∀ items,
      leaf.value = .array items → ∀ item ∈ items, ∃ text, item.text = .ok text) :
    ∃ row part inner, flatten (before ++ (p, .object members) :: after) "" = .ok row ∧
      members.flatten p = .ok part ∧ members.flatten "" = .ok inner ∧
      (∀ key, (∀ leaf ∈ leaves before ++ leaves after, pathKey leaf.path ≠ key) →
        row.get? key = part.get? key) ∧
      (p ≠ "" → ∀ k,
        (∀ leaf ∈ members.leaves, pathKey leaf.path = k ∨ "_".intercalate leaf.path = k →
          leaf.BeginsNamed) →
        (∀ leaf ∈ leaves before ++ leaves after, pathKey leaf.path ≠ p ++ "_" ++ k) →
        row.get? (p ++ "_" ++ k) = inner.get? k) := by
  have hkept : ∀ leaf ∈ leaves before ++ (members.leaves.map (Leaf.below [p]) ++ leaves after),
      ∃ kept, leaf.value.KeptAs kept := by
    intro leaf hleaf
    rw [← leaves_member] at hleaf
    exact Value.exists_keptAs (memberLeaf_ne_object _ [] leaf hleaf) (harrays leaf hleaf)
  obtain ⟨first, hfirst⟩ : ∃ entries, List.Forall₂ Leaf.Writes before.leaves entries :=
    exists_writes fun leaf hleaf => hkept leaf (by simp [hleaf])
  obtain ⟨last, hlast⟩ : ∃ entries, List.Forall₂ Leaf.Writes after.leaves entries :=
    exists_writes fun leaf hleaf => hkept leaf (by simp [hleaf])
  obtain ⟨pairs, hpairs⟩ : ∃ pairs, List.Forall₂ (Leaf.WritesBoth p) members.leaves pairs := by
    apply exists_forall₂
    intro leaf hleaf
    obtain ⟨kept, hvalue⟩ := hkept (leaf.below [p]) (by simp [List.mem_map_of_mem hleaf])
    exact leaf.exists_writesBoth p hvalue
  have hwhole : List.Forall₂ Leaf.Writes (memberLeaves [] (before ++ (p, .object members) :: after))
      (first ++ (pairs.map Prod.snd ++ last)) := by
    rw [memberLeaves_append, memberLeaves, Value.leaves]
    exact List.rel_append hfirst (List.rel_append (writes_below hpairs) hlast)
  have houtside {key : String}
      (hother : ∀ leaf ∈ leaves before ++ leaves after, pathKey leaf.path ≠ key) :
      get? (putAll [] (first ++ (pairs.map Prod.snd ++ last))) key =
        get? (putAll [] (pairs.map Prod.snd)) key := by
    rw [putAll_append, putAll_append,
      get?_putAll_of_other hlast fun leaf hleaf => hother leaf (by simp [hleaf]), get?_putAll,
      get?_putAll_of_other hfirst fun leaf hleaf => hother leaf (by simp [hleaf]), get?_putAll]
  have hpart := flatten_of_writes _ (writes_below hpairs)
  rw [pathKey_singleton] at hpart
  refine ⟨_, _, _, flatten_of_writes _ hwhole, hpart, flatten_of_writes _ (writes_alone hpairs),
    fun key => houtside, ?_⟩
  intro hp k hnamed hother
  rw [houtside hother]
  exact (get?_writesBoth hp hpairs hnamed).symm

/-- The object below `a` has an empty key behind another one and a key with an underscore, and the
leaf in front of it begins with its prefix. -/
theorem Record.flatten_member_underscores :
    ∃ row inner, flatten [("a_x", .bool true), ("a", .object [("b", .object [("", .null),
        ("c_d", .string "v")]), ("e", .array [])])] "" = .ok row ∧
      flatten [("b", .object [("", .null), ("c_d", .string "v")]), ("e", .array [])] "" =
        .ok inner ∧
      row.get? "a_b_c_d" = inner.get? "b_c_d" ∧ inner.get? "b_c_d" = some (.string "v") := by
  obtain ⟨row, part, inner, hrow, -, hinner, -, hstripped⟩ :=
    @flatten_member [("a_x", .bool true)] []
      [("b", .object [("", .null), ("c_d", .string "v")]), ("e", .array [])] "a" (by
        simp [leaves, memberLeaves, Value.leaves])
  refine ⟨row, inner, hrow, hinner, hstripped (by decide) "b_c_d" ?_ ?_, ?_⟩
  · simp [leaves, memberLeaves, Value.leaves, Leaf.BeginsNamed]
  · simp [leaves, memberLeaves, Value.leaves, pathKey]
  · rw [← Except.ok.inj hinner]
    rfl

/-- Under the empty key, and where an object begins with the empty key, the prefix does not lead
back to the keys of the object, although nothing else stands in the record. -/
theorem Record.flatten_member_unnamed :
    (∃ row inner, flatten [("", .object [("a", .ofInt 1)])] "" = .ok row ∧
      flatten [("a", .ofInt 1)] "" = .ok inner ∧
      inner.get? "a" = some (.ofInt 1) ∧ row.get? ("" ++ "_" ++ "a") = none) ∧
    ∃ row inner, flatten [("a", .object [("", .object [("b", .ofInt 1)])])] "" = .ok row ∧
      flatten [("", .object [("b", .ofInt 1)])] "" = .ok inner ∧
      inner.get? "b" = some (.ofInt 1) ∧ row.get? ("a" ++ "_" ++ "b") = none := by
  constructor
  · exact ⟨[("a", .ofInt 1)], [("a", .ofInt 1)], by rfl, by rfl, by rfl, by rfl⟩
  · exact ⟨[("a__b", .ofInt 1)], [("b", .ofInt 1)], by rfl, by rfl, by rfl, by rfl⟩

end JsonQuery
