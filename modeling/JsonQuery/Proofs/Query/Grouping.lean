import JsonQuery.Query.Group
import Mathlib.Data.List.Perm.Basic
import Mathlib.Tactic

/-!
How rows fall into groups. Two rows are in one group if their values in all grouping columns
are equal. What is no number equals nothing, not even itself, except where JSON texts spell
it. The groups of a list are found by taking its first row together with all later ones of
its group and going on with the rest. Every row is then in exactly one group, and the groups
stand in the order of their first rows.
-/

namespace JsonQuery

/-- The number that a number or a truth value is equal to. -/
def Value.amount? : Value → Option Number
  | .bool b => some (.int (if b then 1 else 0))
  | .number n => some n
  | _ => none

/-- Whether two numbers are equal, or are both what JSON texts spell as no number. -/
def Number.alike (m n : Number) : Bool :=
  m.same n || (m == .float .spelledNan && n == .float .spelledNan)

/-- Whether two values of flat rows are equal. Truth values are equal to one and zero, and
other values only to values of their kind. -/
def Value.alike (a b : Value) : Bool :=
  match a.amount?, b.amount? with
  | some m, some n => m.alike n
  | none, none => match a, b with
      | .null, .null => true
      | .string s, .string t => s == t
      | _, _ => false
  | _, _ => false

/-- Whether two rows are in one group. -/
def sameKey (columns : List String) (a b : Record) : Bool :=
  sameGroup (groupKey columns a) (groupKey columns b)

section Keys

theorem sameGroup_iff {a b : List KeyPart} : sameGroup a b = true ↔ a = b ∧ .alone ∉ a := by
  rw [sameGroup, Bool.and_eq_true, beq_iff_eq, Bool.not_eq_true', ← Bool.not_eq_true,
    List.contains_iff_mem]

theorem Place.compare_eq_eq {p q : Place} : p.compare q = .eq ↔ p = q := by
  cases p <;> cases q <;> simp [Place.compare]

/-- Numbers are equal if they have one place. -/
theorem Number.same_iff {m n : Number} :
    m.same n = true ↔ ∃ p, m.place? = some p ∧ n.place? = some p := by
  rw [Number.same, Number.compare?, beq_iff_eq]
  cases m.place? with
  | none => simp
  | some p =>
      cases n.place? with
      | none => simp
      | some q =>
          change some (p.compare q) = some .eq ↔ _
          rw [Option.some_inj, Place.compare_eq_eq]
          constructor
          · rintro rfl
            exact ⟨p, rfl, rfl⟩
          · rintro ⟨_, ⟨⟩, hq⟩
            exact (Option.some.inj hq).symm

/-- The part of a key that a number makes is its place, or it has none. -/
theorem Number.keyPart_cases (n : Number) :
    (∃ p, n.keyPart = .placed p) ∨ n.keyPart = .spelledNan ∨ n.keyPart = .alone := by
  unfold Number.keyPart
  split
  · exact .inr (.inl rfl)
  · cases n.place? with
    | none => exact .inr (.inr rfl)
    | some p => exact .inl ⟨p, rfl⟩

theorem Number.keyPart_eq_spelledNan {n : Number} :
    n.keyPart = .spelledNan ↔ n = .float .spelledNan := by
  unfold Number.keyPart
  split
  · exact iff_of_true rfl rfl
  · rename_i hother
    refine iff_of_false ?_ hother
    split <;> exact nofun

theorem Number.keyPart_eq_placed {n : Number} {p : Place} :
    n.keyPart = .placed p ↔ n.place? = some p := by
  unfold Number.keyPart
  split
  · exact iff_of_false nofun nofun
  · cases n.place? <;> simp

/-- Numbers are equal if they make the same part of a key, unless that part is equal to no
other. -/
theorem Number.alike_iff (m n : Number) :
    m.alike n = true ↔ m.keyPart = n.keyPart ∧ m.keyPart ≠ .alone := by
  rw [Number.alike, Bool.or_eq_true, Bool.and_eq_true, beq_iff_eq, beq_iff_eq, Number.same_iff]
  simp only [← Number.keyPart_eq_placed, ← Number.keyPart_eq_spelledNan]
  rcases m.keyPart_cases with ⟨p, hplaced⟩ | hspelled | halone
  · rw [hplaced]
    simp [eq_comm]
  · rw [hspelled]
    simp [eq_comm]
  · rw [halone]
    simp

/-- The part of a key that a value with an amount makes is the part of the amount. -/
theorem keyPart_of_amount {v : Value} {n : Number} (h : v.amount? = some n) :
    v.keyPart = n.keyPart := by
  cases v with
  | bool _ | number _ => rw [← Option.some.inj h, Value.keyPart]
  | null | string _ | array _ | object _ => exact absurd h (by simp [Value.amount?])

/-- The part that a value with an amount makes is the part of none without an amount, unless
it is equal to no other. -/
theorem keyPart_eq_alone {a b : Value} {n : Number} (ha : a.amount? = some n)
    (hb : b.amount? = none) (h : a.keyPart = b.keyPart) : a.keyPart = .alone := by
  rw [keyPart_of_amount ha] at h ⊢
  cases b with
  | bool _ | number _ => exact absurd hb (by simp [Value.amount?])
  | null | string _ | array _ | object _ =>
      rcases n.keyPart_cases with ⟨p, hplaced⟩ | hspelled | halone
      · rw [hplaced] at h
        exact absurd h (by simp [Value.keyPart])
      · rw [hspelled] at h
        exact absurd h (by simp [Value.keyPart])
      · exact halone

/-- Values are equal if they make the same part of a key, unless that part is equal to no
other. -/
theorem Value.alike_iff (a b : Value) :
    a.alike b = true ↔ a.keyPart = b.keyPart ∧ a.keyPart ≠ .alone := by
  cases ha : a.amount? with
  | some m =>
      cases hb : b.amount? with
      | some n =>
          unfold alike
          rw [ha, hb, keyPart_of_amount ha, keyPart_of_amount hb]
          exact m.alike_iff n
      | none =>
          unfold alike
          rw [ha, hb]
          refine iff_of_false Bool.false_ne_true ?_
          rintro ⟨hsame, hother⟩
          exact hother (keyPart_eq_alone ha hb hsame)
  | none =>
      cases hb : b.amount? with
      | some n =>
          unfold alike
          rw [ha, hb]
          refine iff_of_false Bool.false_ne_true ?_
          rintro ⟨hsame, hother⟩
          exact hother (hsame.trans (keyPart_eq_alone hb ha hsame.symm))
      | none =>
          unfold alike
          rw [ha, hb]
          cases a with
          | bool _ | number _ => exact absurd ha (by simp [amount?])
          | null | string _ | array _ | object _ =>
              cases b with
              | bool _ | number _ => exact absurd hb (by simp [amount?])
              | null | string _ | array _ | object _ => simp [keyPart]

/-- What JSON texts spell as no number is equal to itself only. -/
theorem Value.alike_spelledNan {v : Value} :
    (Value.ofFloat .spelledNan).alike v = true ↔ v = Value.ofFloat .spelledNan := by
  have hpart : (Value.ofFloat .spelledNan).keyPart = .spelledNan := rfl
  rw [Value.alike_iff, hpart, eq_comm]
  refine (and_iff_left nofun).trans ?_
  cases v with
  | bool _ =>
      rw [Value.keyPart, Number.keyPart_eq_spelledNan]
      exact iff_of_false nofun nofun
  | number n =>
      rw [Value.keyPart, Number.keyPart_eq_spelledNan, Value.ofFloat, Value.number.injEq]
  | null | string _ | array _ | object _ => exact iff_of_false nofun nofun

example : (Value.ofInt 1).alike (.bool true) = true := by decide +kernel

/-- Rows are in one group if their values in all grouping columns are equal. -/
theorem sameKey_iff {columns : List String} {a b : Record} :
    sameKey columns a b = true ↔
      ∀ column ∈ columns, (a.get column).alike (b.get column) = true := by
  rw [sameKey, sameGroup_iff, groupKey, groupKey, List.map_inj_left]
  constructor
  · rintro ⟨hsame, halone⟩ column hcolumn
    refine (Value.alike_iff _ _).mpr ⟨hsame column hcolumn, ?_⟩
    intro heq
    exact halone (heq ▸ List.mem_map_of_mem hcolumn)
  · intro h
    refine ⟨fun column hcolumn => ((Value.alike_iff _ _).mp (h column hcolumn)).1, ?_⟩
    intro hmem
    obtain ⟨column, hcolumn, heq⟩ := List.mem_map.mp hmem
    exact ((Value.alike_iff _ _).mp (h column hcolumn)).2 heq

theorem sameKey_symm {columns : List String} {a b : Record} (h : sameKey columns a b = true) :
    sameKey columns b a = true := by
  obtain ⟨hsame, halone⟩ := sameGroup_iff.mp h
  exact sameGroup_iff.mpr ⟨hsame.symm, hsame ▸ halone⟩

theorem sameKey_trans {columns : List String} {a b c : Record}
    (hab : sameKey columns a b = true) (hbc : sameKey columns b c = true) :
    sameKey columns a c = true := by
  obtain ⟨hsame, halone⟩ := sameGroup_iff.mp hab
  exact sameGroup_iff.mpr ⟨hsame.trans (sameGroup_iff.mp hbc).1, halone⟩

end Keys

/-- The rows cut into groups, in the order of their first rows. -/
def classes (columns : List String) : List Record → List (List Record)
  | [] => []
  | row :: rows =>
      (row :: rows.filter (sameKey columns row)) ::
        classes columns (rows.filter fun other => !sameKey columns row other)
termination_by rows => rows.length
decreasing_by
  rw [List.length_unattach]
  exact Nat.lt_succ_of_le ((List.length_filter_le _ _).trans_eq List.length_attach)

/-- What it means that groups are the groups of some rows by their keys: every row is in
exactly one place, a group holds all rows with the key of one of its rows in their order, a
row whose key equals no other is alone, no key has two groups, and the groups come in the
order of their first rows. -/
structure Grouped (columns : List String) (rows : List Record) (groups : List (List Record)) :
    Prop where
  exhaust : groups.flatten.Perm rows
  whole : ∀ group ∈ groups, ∀ row ∈ group, sameKey columns row row = true →
    group = rows.filter (sameKey columns row)
  alone : ∀ group ∈ groups, ∀ row ∈ group, sameKey columns row row = false → group = [row]
  distinct : groups.Pairwise fun one other =>
    ∀ a ∈ one, ∀ b ∈ other, sameKey columns a b = false
  firstSeen : (groups.filterMap List.head?).Sublist rows

/-- Rows with one key have the same rows in their group. -/
theorem sameKey_congr {columns : List String} {a b : Record} (h : sameKey columns a b = true) :
    sameKey columns a = sameKey columns b := by
  funext c
  rw [Bool.eq_iff_iff]
  exact ⟨fun hac => sameKey_trans (sameKey_symm h) hac, fun hbc => sameKey_trans h hbc⟩

/-- A row whose key equals that of another row has a key that equals itself. -/
theorem sameKey_self {columns : List String} {a b : Record} (h : sameKey columns a b = true) :
    sameKey columns a a = true := sameKey_trans h (sameKey_symm h)

theorem classes_cons (columns : List String) (row : Record) (rows : List Record) :
    classes columns (row :: rows) =
      (row :: rows.filter (sameKey columns row)) ::
        classes columns (rows.filter fun other => !sameKey columns row other) := by
  rw [classes]

/-- What holds of no rows, and of some rows if it holds of those outside the group of the
first one, holds of all. -/
theorem classes_induction (columns : List String) {motive : List Record → Prop} (nil : motive [])
    (cons : ∀ row rows, motive (rows.filter fun other => !sameKey columns row other) →
      motive (row :: rows)) (rows : List Record) : motive rows := by
  induction hlength : rows.length using Nat.strong_induction_on generalizing rows with
  | _ length ih =>
      cases rows with
      | nil => exact nil
      | cons row rows =>
          have hless : (rows.filter fun other => !sameKey columns row other).length < length := by
            rw [← hlength]
            exact Nat.lt_succ_of_le (List.length_filter_le _ _)
          exact cons row rows (ih _ hless _ rfl)

/-- The first group holds all rows with the key of one of its rows. -/
theorem first_whole {columns : List String} {row other : Record} {rows : List Record}
    (hother : other ∈ row :: rows.filter (sameKey columns row))
    (hself : sameKey columns other other = true) :
    row :: rows.filter (sameKey columns row) = (row :: rows).filter (sameKey columns other) := by
  rcases List.mem_cons.mp hother with rfl | hmem
  · rw [List.filter_cons_of_pos hself]
  · have hsame := (List.mem_filter.mp hmem).2
    rw [← sameKey_congr hsame, List.filter_cons_of_pos (sameKey_self hsame)]

/-- The rows with a key that the first row does not have are outside its group. -/
theorem later_whole {columns : List String} {row other : Record} {rows : List Record}
    (hother : sameKey columns row other = false) :
    (rows.filter fun third => !sameKey columns row third).filter (sameKey columns other) =
      (row :: rows).filter (sameKey columns other) := by
  have hrow : ¬ sameKey columns other row = true := fun hsame =>
    Bool.eq_false_iff.mp hother (sameKey_symm hsame)
  rw [List.filter_filter, List.filter_cons_of_neg hrow]
  apply List.filter_congr
  intro third _
  cases hthird : sameKey columns other third with
  | false => rfl
  | true =>
      have houtside : sameKey columns row third = false := by
        rw [Bool.eq_false_iff]
        intro hsame
        exact Bool.eq_false_iff.mp hother (sameKey_trans hsame (sameKey_symm hthird))
      rw [houtside]
      rfl

/-- A row whose key equals no other makes its group alone. -/
theorem first_alone {columns : List String} {row other : Record} {rows : List Record}
    (hother : other ∈ row :: rows.filter (sameKey columns row))
    (hself : sameKey columns other other = false) :
    row :: rows.filter (sameKey columns row) = [other] := by
  rcases List.mem_cons.mp hother with rfl | hmem
  · rw [List.filter_eq_nil_iff.mpr]
    intro third _ hthird
    exact Bool.eq_false_iff.mp hself (sameKey_self hthird)
  · have hsame := (List.mem_filter.mp hmem).2
    exact absurd (sameKey_self (sameKey_symm hsame)) (Bool.eq_false_iff.mp hself)

/-- The classes of some rows are their groups. -/
theorem classes_grouped (columns : List String) (rows : List Record) :
    Grouped columns rows (classes columns rows) := by
  induction rows using classes_induction columns with
  | nil =>
      rw [classes]
      exact ⟨.nil, fun _ h => absurd h List.not_mem_nil, fun _ h => absurd h List.not_mem_nil,
        .nil, .slnil⟩
  | cons row rows ih =>
      rw [classes_cons]
      have hrest : ∀ group ∈ classes columns (rows.filter fun other => !sameKey columns row other),
          ∀ other ∈ group, sameKey columns row other = false := by
        intro group hgroup other hother
        have hmem := ih.exhaust.mem_iff.mp (List.mem_flatten_of_mem hgroup hother)
        simpa using (List.mem_filter.mp hmem).2
      refine ⟨?exhaust, ?whole, ?alone, ?distinct, ?firstSeen⟩
      case exhaust =>
        rw [List.flatten_cons, List.cons_append]
        exact ((ih.exhaust.append_left _).trans (List.filter_append_perm _ _)).cons row
      case whole =>
        intro group hgroup other hother hself
        rcases List.mem_cons.mp hgroup with rfl | hlater
        · exact first_whole hother hself
        · rw [ih.whole group hlater other hother hself]
          exact later_whole (hrest group hlater other hother)
      case alone =>
        intro group hgroup other hother hself
        rcases List.mem_cons.mp hgroup with rfl | hlater
        · exact first_alone hother hself
        · exact ih.alone group hlater other hother hself
      case distinct =>
        refine List.pairwise_cons.mpr ⟨?_, ih.distinct⟩
        intro group hgroup a ha b hb
        rcases List.mem_cons.mp ha with rfl | hmem
        · exact hrest group hgroup b hb
        · rw [← sameKey_congr (List.mem_filter.mp hmem).2]
          exact hrest group hgroup b hb
      case firstSeen =>
        exact (ih.firstSeen.trans List.filter_sublist).cons_cons row

/-- The groups with a row put behind those of the first group it belongs to, or into a new
group at the end. -/
def insertRow (columns : List String) (row : Record) : List (List Record) → List (List Record)
  | [] => [[row]]
  | group :: groups =>
      if (group.head?.any fun first => sameKey columns first row) then
        (group ++ [row]) :: groups
      else group :: insertRow columns row groups

/-- One more row goes into its group among those of the rows before it. -/
theorem classes_concat (columns : List String) (rows : List Record) (row : Record) :
    classes columns (rows ++ [row]) = insertRow columns row (classes columns rows) := by
  induction rows using classes_induction columns with
  | nil => rw [List.nil_append, classes_cons, List.filter_nil, List.filter_nil, classes, insertRow]
  | cons first rows ih =>
      rw [List.cons_append, classes_cons, classes_cons, List.filter_append, List.filter_append,
        insertRow, List.head?_cons, Option.any_some]
      cases hsame : sameKey columns first row with
      | true =>
          rw [if_pos rfl, List.filter_cons_of_pos hsame, List.filter_cons_of_neg (by simp [hsame]),
            List.filter_nil, List.filter_nil, List.append_nil, List.cons_append]
      | false =>
          rw [if_neg Bool.false_ne_true, List.filter_cons_of_neg (by simp [hsame]),
            List.filter_cons_of_pos (by simp [hsame]), List.filter_nil, List.filter_nil,
            List.append_nil, ih]

/-- No group is empty. -/
theorem classes_ne_nil {columns : List String} {rows group : List Record}
    (h : group ∈ classes columns rows) : group ≠ [] := by
  induction rows using classes_induction columns with
  | nil =>
      rw [classes] at h
      exact absurd h List.not_mem_nil
  | cons row rows ih =>
      rw [classes_cons] at h
      rcases List.mem_cons.mp h with rfl | hlater
      · exact List.cons_ne_nil _ _
      · exact ih hlater

/-- Without grouping columns there is one group unless there are no rows. -/
theorem classes_no_columns (row : Record) (rows : List Record) :
    classes [] (row :: rows) = [row :: rows] := by
  have hall : rows.filter (sameKey [] row) = rows := List.filter_eq_self.mpr fun _ _ => rfl
  have hnone : (rows.filter fun other => !sameKey [] row other) = [] :=
    List.filter_eq_nil_iff.mpr fun _ _ => Bool.false_ne_true
  rw [classes_cons, hall, hnone, classes]

end JsonQuery
