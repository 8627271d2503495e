import JsonQuery.Proofs.Number.Reading
import JsonQuery.Proofs.Query.Grouping
import JsonQuery.Query.Condition
import Mathlib.Tactic

/-!
Integers and the literal of an equality. The literal is read in double precision before it is
compared, and the integer in the row is not. So a literal that is exact in double precision finds
itself, and every other one finds the number nearest to it instead.
-/

namespace JsonQuery

namespace Binary64

theorem signedUnits_mul (negative : Bool) (a b : ℕ) :
    signedUnits negative (a * b) = signedUnits negative a * b := by
  unfold signedUnits
  split_ifs
  · rw [Nat.cast_mul, neg_mul]
  · exact Nat.cast_mul a b

theorem place?_ofRatio_whole (n : ℤ) (h : (nearestWhole n).natAbs < 2 ^ 1024) :
    (ofRatio (n < 0) n.natAbs 1).place? = some (.at (nearestWhole n * unitsPerOne)) := by
  rw [natAbs_nearestWhole] at h
  rw [ofRatio_whole, if_pos h, Binary64.place?, signedUnits_mul, ← nearestWhole]

theorem place?_ofRatio_large (n : ℤ) (h : ¬ (nearestWhole n).natAbs < 2 ^ 1024) (units : ℤ) :
    (ofRatio (n < 0) n.natAbs 1).place? ≠ some (.at units) := by
  rw [natAbs_nearestWhole] at h
  rw [ofRatio_whole, if_neg h, Binary64.place?]
  cases decide (n < 0) <;> exact nofun

end Binary64

open Binary64

variable {m : ℤ}

/-- An integer is equal to the double-precision number nearest to `n` exactly if it is `n`
rounded, and not too large. -/
theorem Number.same_ofRatio_whole (m n : ℤ) :
    (Number.int m).same (.float (ofRatio (n < 0) n.natAbs 1)) = true ↔
      m = nearestWhole n ∧ m.natAbs < 2 ^ 1024 := by
  have hone : (unitsPerOne : ℤ) ≠ 0 := Nat.cast_ne_zero.mpr Value.unitsPerOne_pos.ne'
  rw [Number.same_iff, Number.place?, Number.place?]
  by_cases hsmall : (nearestWhole n).natAbs < 2 ^ 1024
  · rw [place?_ofRatio_whole n hsmall]
    constructor
    · rintro ⟨p, hleft, hright⟩
      obtain rfl : m = nearestWhole n :=
        mul_right_cancel₀ hone (Place.at.inj (Option.some.inj (hleft.trans hright.symm)))
      exact ⟨rfl, hsmall⟩
    · rintro ⟨rfl, -⟩
      exact ⟨_, rfl, rfl⟩
  · constructor
    · rintro ⟨p, hleft, hright⟩
      exact absurd (hright.trans hleft.symm) (place?_ofRatio_large n hsmall _)
    · rintro ⟨rfl, hm⟩
      exact absurd hm hsmall

/-- An equality with the decimal text of an integer is decided for every row that holds an integer.
It holds exactly if that is the double-precision number nearest to the one in the text. -/
theorem Condition.holds_integer {column : String} {row : Record} (quoted : Bool) (n : ℤ)
    (h : row.get column = .ofInt m) :
    ∃ holds, Condition.holds ⟨column, .equals, toString n, quoted⟩ row = .ok holds ∧
      (holds = true ↔ m = nearestWhole n ∧ m.natAbs < 2 ^ 1024) ∧
      (holds = true → Exact m ∧ ∀ k, Exact k → |m - n| ≤ |k - n|) ∧
      (Exact n → n.natAbs < 2 ^ 1024 → (holds = true ↔ m = n)) ∧
      (n.natAbs ≤ 2 ^ 53 → (holds = true ↔ m = n)) ∧
      (m = n → holds = true → Exact n ∧ n.natAbs < 2 ^ 1024) := by
  have hdecided : Condition.holds ⟨column, .equals, toString n, quoted⟩ row =
      .ok ((Number.int m).same (.float (ofRatio (n < 0) n.natAbs 1))) := by
    rw [Condition.holds, h]
    simp only [Value.ofInt, Value.equalsLiteral, ofText?_toString]
    rfl
  have hnearest := Number.same_ofRatio_whole m n
  have hself (hexact : Exact n) (hsmall : n.natAbs < 2 ^ 1024) :
      (Number.int m).same (.float (ofRatio (n < 0) n.natAbs 1)) = true ↔ m = n := by
    rw [hnearest, nearestWhole_eq_self_iff.mpr hexact, and_iff_left_iff_imp]
    rintro rfl
    exact hsmall
  refine ⟨_, hdecided, hnearest, ?_, hself, ?_, ?_⟩
  · intro hsame
    obtain ⟨rfl, -⟩ := hnearest.mp hsame
    exact ⟨exact_nearestWhole n, fun k hk => nearestWhole_nearest n hk⟩
  · intro hsmall
    apply hself (exact_of_le hsmall)
    apply hsmall.trans_lt
    exact pow_lt_pow_right₀ one_lt_two (by omega)
  · rintro rfl hsame
    obtain ⟨hrounded, hsmall⟩ := hnearest.mp hsame
    exact ⟨nearestWhole_eq_self_iff.mp hrounded.symm, hsmall⟩

/-- The least positive integer that is not exact finds the one before it. -/
theorem Condition.holds_integer_rounded :
    Condition.holds ⟨"id", .equals, toString (9007199254740993 : ℤ), false⟩
      [("id", .ofInt 9007199254740992)] = .ok true := by
  have hget : Record.get [("id", .ofInt 9007199254740992)] "id" = .ofInt 9007199254740992 := rfl
  obtain ⟨holds, hholds, hnearest, -⟩ := Condition.holds_integer false 9007199254740993 hget
  rw [hholds, hnearest.mpr (by decide +kernel)]

/-- It does not find itself. -/
theorem Condition.holds_integer_not_itself :
    Condition.holds ⟨"id", .equals, toString (9007199254740993 : ℤ), false⟩
      [("id", .ofInt 9007199254740993)] = .ok false := by
  decide +kernel

end JsonQuery
