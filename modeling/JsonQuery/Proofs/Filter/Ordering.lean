import JsonQuery.Filter.Basic
import JsonQuery.Proofs.Query.Equality
import Mathlib.Tactic

/-!
Integers and the bound of a filter rule. The bound is read in double precision before anything is
compared with it, and the integer in the record is not. So a rule decides all integers rightly
exactly if its bound is exact in double precision and in its range. Any other bound in range is
moved to the number nearest to it, and one out of range to the end of the number line on its side.
-/

namespace JsonQuery

open Binary64

namespace FilterOperator

/-- The operators that order numbers. -/
def ordering : List FilterOperator := [.greater, .less, .greaterEqual, .lessEqual]

/-- What an operator asks of an integer and a bound. -/
def Orders (operator : FilterOperator) (m bound : ℤ) : Prop :=
  match operator with
  | .greater => bound < m
  | .less => m < bound
  | .greaterEqual => bound ≤ m
  | .lessEqual => m ≤ bound
  | .equals | .contains => False

variable {operator : FilterOperator}

/-- An operator accepts the outcome of the comparison it asks for. -/
theorem accepts_compare (operator : FilterOperator) (m bound : ℤ) :
    operator.accepts (some (compare m bound)) = true ↔ operator.Orders m bound := by
  rcases lt_trichotomy m bound with h | rfl | h
  · have hcompare : compare m bound = .lt := compare_lt_iff_lt.mpr h
    rw [hcompare]
    cases operator <;> simp [accepts, Orders, h, h.le, h.not_gt]
  · have hcompare : compare m m = .eq := compare_eq_iff_eq.mpr rfl
    rw [hcompare]
    cases operator <;> simp [accepts, Orders]
  · have hcompare : compare m bound = .gt := compare_gt_iff_gt.mpr h
    rw [hcompare]
    cases operator <;> simp [accepts, Orders, h, h.le, h.not_gt]

/-- Two bounds by which all integers are decided alike are one. -/
theorem eq_of_orders (hoperator : operator ∈ ordering) {a b : ℤ}
    (h : ∀ m, operator.Orders m a ↔ operator.Orders m b) : a = b := by
  have ha := h a
  have hb := h b
  simp only [ordering, List.mem_cons, List.not_mem_nil, or_false] at hoperator
  rcases hoperator with rfl | rfl | rfl | rfl
  all_goals
    simp only [Orders] at ha hb
    omega

/-- The integers on both sides of a bound are not decided alike. -/
theorem orders_beside (hoperator : operator ∈ ordering) (bound : ℤ) :
    operator.Orders (bound - 1) bound ↔ ¬ operator.Orders (bound + 1) bound := by
  simp only [ordering, List.mem_cons, List.not_mem_nil, or_false] at hoperator
  rcases hoperator with rfl | rfl | rfl | rfl
  all_goals
    simp only [Orders]
    omega

end FilterOperator

/-- A bound is compared with as the number nearest to it, or as one beyond all integers on its
side of zero. -/
def Binary64.compareRounded (m n : ℤ) : Ordering :=
  if InRange n then compare m (nearestWhole n) else compare 0 n

theorem compare_mul_unitsPerOne (a b : ℤ) :
    compare (a * unitsPerOne) (b * unitsPerOne) = compare a b := by
  have hone : (0 : ℤ) < unitsPerOne := Int.natCast_pos.mpr Value.unitsPerOne_pos
  rcases lt_trichotomy a b with h | rfl | h
  · rw [compare_lt_iff_lt.mpr h, compare_lt_iff_lt]
    exact mul_lt_mul_of_pos_right h hone
  · rw [compare_eq_iff_eq.mpr rfl, compare_eq_iff_eq.mpr rfl]
  · rw [compare_gt_iff_gt.mpr h, compare_gt_iff_gt]
    exact mul_lt_mul_of_pos_right h hone

theorem Number.compare?_ofRatio_whole (m n : ℤ) :
    (Number.int m).compare? (.float (ofRatio (n < 0) n.natAbs 1)) = some (compareRounded m n) := by
  have hrange : InRange n ↔ (nearestWhole n).natAbs < 2 ^ 1024 := by
    rw [natAbs_nearestWhole]
    exact (wholeUnits_lt_iff (by rfl)).symm
  unfold compareRounded
  split_ifs with hin
  · have hplace : (Number.float (ofRatio (n < 0) n.natAbs 1)).place? =
        some (.at (nearestWhole n * unitsPerOne)) :=
      place?_ofRatio_whole n (hrange.mp hin)
    rw [Number.compare?, hplace, ← compare_mul_unitsPerOne]
    rfl
  · have hlarge : ¬ wholeUnits n.natAbs < 2 ^ 1024 := by
      rwa [hrange, natAbs_nearestWhole] at hin
    rw [Number.compare?, ofRatio_whole, if_neg hlarge]
    rcases lt_trichotomy n 0 with h | rfl | h
    · rw [compare_gt_iff_gt.mpr h, decide_eq_true h]
      rfl
    · exact absurd (by decide +kernel) hin
    · rw [compare_lt_iff_lt.mpr h, decide_eq_false h.not_gt]
      rfl

namespace FilterRule

variable {m : ℤ} {column : String} {members : Record} {operator : FilterOperator}

theorem accepts_number (hoperator : operator ∈ FilterOperator.ordering) (n : ℤ)
    (h : Record.get members column = .ofInt m) :
    accepts ⟨column, operator, toString n⟩ (.object members) =
      .ok (operator.accepts (some (compareRounded m n))) := by
  have hnumber : (Value.ofInt m).number? = some (.int m) := rfl
  have hvalue : acceptsValue ⟨column, operator, toString n⟩ (.ofInt m) =
      .ok (operator.accepts (some (compareRounded m n))) := by
    rw [← Number.compare?_ofRatio_whole]
    simp only [FilterOperator.ordering, List.mem_cons, List.not_mem_nil, or_false] at hoperator
    unfold acceptsValue
    rcases hoperator with rfl | rfl | rfl | rfl
    all_goals
      dsimp only
      rw [hnumber, ofText?_toString]
      rfl
  have hnull : (Value.ofInt m).isNull = false := rfl
  rw [accepts]
  dsimp only
  rw [h, hnull, if_neg Bool.false_ne_true, hvalue]

/-- A rule that orders integers by the decimal text of one decides every record that holds an
integer, by the double-precision number nearest to the bound, or by the sign of a bound beyond
them. All integers are decided as the bound itself would decide them exactly if it is one of these
numbers, as every integer up to `2 ^ 53` in magnitude is. -/
theorem accepts_integer (column : String) (hoperator : operator ∈ FilterOperator.ordering)
    (n : ℤ) :
    ∃ passes : ℤ → Bool,
      (∀ m (members : Record), members.get column = .ofInt m →
        accepts ⟨column, operator, toString n⟩ (.object members) = .ok (passes m)) ∧
      (InRange n → ∀ m, passes m = true ↔ operator.Orders m (nearestWhole n)) ∧
      (∀ k, Exact k → |nearestWhole n - n| ≤ |k - n|) ∧
      (¬ InRange n → ∀ m, passes m = true ↔ operator.Orders 0 n) ∧
      ((∀ m, passes m = true ↔ operator.Orders m n) ↔ Exact n ∧ InRange n) ∧
      (n.natAbs ≤ 2 ^ 53 → ∀ m, passes m = true ↔ operator.Orders m n) := by
  have hinside (hin : InRange n) (m : ℤ) :
      operator.accepts (some (compareRounded m n)) = true ↔
        operator.Orders m (nearestWhole n) := by
    rw [compareRounded, if_pos hin, FilterOperator.accepts_compare]
  have houtside (hout : ¬ InRange n) (m : ℤ) :
      operator.accepts (some (compareRounded m n)) = true ↔ operator.Orders 0 n := by
    rw [compareRounded, if_neg hout, FilterOperator.accepts_compare]
  have hexact : (∀ m, operator.accepts (some (compareRounded m n)) = true ↔
      operator.Orders m n) ↔ Exact n ∧ InRange n := by
    constructor
    · intro hall
      have hin : InRange n := by
        by_contra hout
        -- beyond the range both neighbours of the bound are on the same side
        have hbelow := (hall (n - 1)).symm.trans (houtside hout _)
        have habove := (hall (n + 1)).symm.trans (houtside hout _)
        have hbeside := FilterOperator.orders_beside hoperator n
        rw [hbelow, habove] at hbeside
        exact iff_not_self hbeside
      refine ⟨nearestWhole_eq_self_iff.mp ?_, hin⟩
      exact FilterOperator.eq_of_orders hoperator fun m => (hinside hin m).symm.trans (hall m)
    · rintro ⟨hwhole, hin⟩ m
      rw [hinside hin, nearestWhole_eq_self_iff.mpr hwhole]
  refine ⟨fun m => operator.accepts (some (compareRounded m n)), ?_, hinside, ?_, houtside, hexact,
    ?_⟩
  · exact fun m members h => accepts_number hoperator n h
  · exact fun k hk => nearestWhole_nearest n hk
  · intro hsmall
    refine hexact.mpr ⟨exact_of_le hsmall, ?_⟩
    exact hsmall.trans_lt (by decide +kernel)

/-- A bound that is rounded upwards keeps the integer it is rounded to out. -/
theorem accepts_integer_rounded :
    accepts ⟨"id", .greater, toString (9007199254740995 : ℤ)⟩
      (.object [("id", .ofInt 9007199254740996)]) = .ok false := by
  have hget : Record.get [("id", .ofInt 9007199254740996)] "id" = .ofInt 9007199254740996 := rfl
  have hoperator : FilterOperator.greater ∈ FilterOperator.ordering := by decide
  obtain ⟨passes, hpasses, hinside, -⟩ := accepts_integer "id" hoperator 9007199254740995
  have hrejected : ¬ passes 9007199254740996 = true := by
    rw [hinside (by decide +kernel)]
    have hnearest : nearestWhole 9007199254740995 = 9007199254740996 := by decide +kernel
    rw [hnearest, FilterOperator.Orders]
    decide
  rw [hpasses _ _ hget, Bool.eq_false_iff.mpr hrejected]

/-- One that is rounded downwards lets itself in as a greater one. -/
theorem accepts_integer_itself :
    accepts ⟨"id", .greater, toString (9007199254740993 : ℤ)⟩
        (.object [("id", .ofInt 9007199254740993)]) = .ok true ∧
      ¬ (9007199254740993 : ℤ) > 9007199254740993 := by
  decide +kernel

end FilterRule

end JsonQuery
