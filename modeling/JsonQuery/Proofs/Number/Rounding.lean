import JsonQuery.Proofs.Value.NumberText
import Mathlib.Tactic

/-!
Whole numbers in double precision. A number with at most 53 binary digits and zeros behind them is
exact. Every other one is rounded, and no exact number is nearer to it than the one it is rounded
to. The last numbers before the limit are rounded up to it, and so are out of range with it.
-/

namespace JsonQuery

section Quotients

variable {num den : ℕ}

theorem roundHalfEven_mul_right (num den : ℕ) {k : ℕ} (hk : 0 < k) :
    roundHalfEven (num * k) (den * k) = roundHalfEven num den := by
  unfold roundHalfEven
  rw [Nat.mul_div_mul_right _ _ hk, Nat.mul_mod_mul_right]
  simp only [← Nat.mul_assoc, Nat.mul_lt_mul_right hk]

theorem roundHalfEven_of_dvd (hden : 0 < den) (h : den ∣ num) :
    roundHalfEven num den * den = num := by
  have hrest : 2 * (num % den) < den := by
    rw [Nat.mod_eq_zero_of_dvd h]
    omega
  rw [roundHalfEven, if_pos hrest, Nat.div_mul_cancel h]

theorem roundHalfEven_le (num den : ℕ) : roundHalfEven num den ≤ num / den + 1 := by
  unfold roundHalfEven
  dsimp only
  split_ifs <;> omega

/-- From the middle between two multiples on, an odd quotient is rounded up. -/
theorem roundHalfEven_of_odd (hodd : num / den % 2 = 1) (hhalf : den ≤ 2 * (num % den)) :
    roundHalfEven num den = num / den + 1 := by
  unfold roundHalfEven
  rw [if_neg (Nat.not_lt.mpr hhalf), hodd, if_neg (by decide : ¬ (1 == 0) = true), ite_self]

/-- No multiple of the denominator is nearer to the numerator. -/
theorem roundHalfEven_nearest (num : ℕ) (hden : 0 < den) (k : ℕ) :
    |((roundHalfEven num den * den : ℕ) : ℤ) - num| ≤ |((k * den : ℕ) : ℤ) - num| := by
  have hrest := Nat.mod_lt num hden
  have hnum : num / den * den + num % den = num := Nat.div_add_mod' num den
  -- the multiples below the numerator and those above it are at most as near as the next ones
  have hother : (num % den : ℕ) ≤ |((k * den : ℕ) : ℤ) - num| ∨
      ((den - num % den : ℕ) : ℤ) ≤ |((k * den : ℕ) : ℤ) - num| := by
    rcases Nat.lt_or_ge (num / den) k with hk | hk
    · right
      have hle : (num / den + 1) * den ≤ k * den := Nat.mul_le_mul_right den hk
      rw [Nat.add_mul, Nat.one_mul] at hle
      rw [le_abs]
      omega
    · left
      have hle : k * den ≤ num / den * den := Nat.mul_le_mul_right den hk
      rw [le_abs]
      omega
  have hdown : |((num / den * den : ℕ) : ℤ) - num| = (num % den : ℕ) := by
    rw [abs_of_nonpos (by omega)]
    omega
  have hup : |(((num / den + 1) * den : ℕ) : ℤ) - num| = (den - num % den : ℕ) := by
    rw [Nat.add_mul, Nat.one_mul, abs_of_nonneg (by omega)]
    omega
  unfold roundHalfEven
  dsimp only
  split_ifs
  · rw [hdown]
    omega
  · rw [hup]
    omega
  · rw [hdown]
    omega
  · rw [hup]
    omega

end Quotients

section Digits

variable {n k : ℕ}

theorem bitLength_le_iff : bitLength n ≤ k ↔ n < 2 ^ k := by
  unfold bitLength
  by_cases hn : n = 0
  · subst hn
    simp
  · rw [if_neg (by simpa using hn), Nat.add_one_le_iff]
    exact Nat.log2_lt hn

theorem lt_bitLength_iff : k < bitLength n ↔ 2 ^ k ≤ n := by
  rw [← Nat.not_le, bitLength_le_iff, Nat.not_lt]

theorem bitLength_mul_pow (hn : 0 < n) (k : ℕ) : bitLength (n * 2 ^ k) = bitLength n + k := by
  have hlength : 0 < bitLength n := lt_bitLength_iff.mpr hn
  apply le_antisymm
  · rw [bitLength_le_iff, pow_add]
    exact Nat.mul_lt_mul_of_pos_right (bitLength_le_iff.mp le_rfl) (by positivity)
  · have hlow : 2 ^ (bitLength n - 1) ≤ n := lt_bitLength_iff.mp (by omega)
    have hwhole : bitLength n - 1 + k < bitLength (n * 2 ^ k) := by
      rw [lt_bitLength_iff, pow_add]
      exact Nat.mul_le_mul_right _ hlow
    omega

end Digits

namespace Binary64

variable {n k : ℕ}

theorem spacing_pos (n : ℕ) : 0 < spacing n := powerOfTwo_pos _

theorem powerOfTwo_eq (n : ℕ) : powerOfTwo n = 2 ^ n := rfl

theorem spacing_eq (n : ℕ) : spacing n = 2 ^ (bitLength n - 53) := powerOfTwo_eq _

/-- A magnitude is less than `2 ^ 53` times the distance of its neighbours. -/
theorem lt_mul_spacing (n : ℕ) : n < 2 ^ 53 * spacing n := by
  rw [spacing_eq, ← pow_add]
  exact bitLength_le_iff.mp (by omega)

/-- The double-precision number nearest to a whole magnitude, as a whole number. -/
def wholeUnits (n : ℕ) : ℕ := roundHalfEven n (spacing n) * spacing n

theorem wholeUnits_zero : wholeUnits 0 = 0 :=
  roundHalfEven_of_dvd (spacing_pos 0) (dvd_zero _)

/-- The double-precision number nearest to an integer, as an integer of any size. -/
def nearestWhole (n : ℤ) : ℤ := signedUnits (n < 0) (wholeUnits n.natAbs)

/-- An integer with at most 53 binary digits and zeros behind them. -/
def Exact (n : ℤ) : Prop :=
  ∃ (digits : ℤ) (zeros : ℕ), digits.natAbs < 2 ^ 53 ∧ n = digits * 2 ^ zeros

section Exactness

variable {m : ℤ}

theorem Exact.neg (h : Exact m) : Exact (-m) := by
  obtain ⟨digits, zeros, hdigits, rfl⟩ := h
  exact ⟨-digits, zeros, by rwa [Int.natAbs_neg], (neg_mul _ _).symm⟩

theorem exact_signedUnits (negative : Bool) (h : Exact k) : Exact (signedUnits negative k) := by
  cases negative with
  | false => exact h
  | true => exact h.neg

theorem exact_of_le (h : m.natAbs ≤ 2 ^ 53) : Exact m := by
  rcases h.lt_or_eq with hless | hequal
  · exact ⟨m, 0, hless, by simp⟩
  · have hsign : m = m.sign * 2 ^ 53 := by
      calc m = m.sign * (m.natAbs : ℤ) := (Int.sign_mul_natAbs m).symm
        _ = m.sign * 2 ^ 53 := by rw [hequal]; rfl
    refine ⟨m.sign, 53, ?_, hsign⟩
    rcases Int.sign_trichotomy m with hs | hs | hs <;> rw [hs] <;> decide

theorem exact_pow (zeros : ℕ) : Exact ((2 ^ zeros : ℕ) : ℤ) :=
  ⟨1, zeros, by decide, by simp⟩

theorem exact_wholeUnits (n : ℕ) : Exact (wholeUnits n) := by
  have hquotient : n / spacing n < 2 ^ 53 := by
    rw [Nat.div_lt_iff_lt_mul (spacing_pos n)]
    exact lt_mul_spacing n
  have hle := roundHalfEven_le n (spacing n)
  have hsmall : ((roundHalfEven n (spacing n) : ℕ) : ℤ).natAbs ≤ 2 ^ 53 := by omega
  obtain ⟨digits, zeros, hdigits, heq⟩ := exact_of_le hsmall
  refine ⟨digits, zeros + (bitLength n - 53), hdigits, ?_⟩
  rw [wholeUnits, Nat.cast_mul, heq, spacing_eq, Nat.cast_pow, pow_add, mul_assoc]
  rfl

/-- No exact magnitude is nearer to `n` than the one it is rounded to. -/
theorem wholeUnits_nearest (n : ℕ) (hk : Exact k) :
    |((wholeUnits n : ℕ) : ℤ) - n| ≤ |(k : ℤ) - n| := by
  obtain ⟨digits, zeros, hdigits, hvalue⟩ := hk
  have hwhole : k = digits.natAbs * 2 ^ zeros := by
    rw [← Int.natAbs_natCast k, hvalue, Int.natAbs_mul, Int.natAbs_pow]
    rfl
  rcases Nat.lt_or_ge zeros (bitLength n - 53) with hfew | hmany
  · -- `k` is below the power of two that `n` begins with, which is a multiple of the spacing
    have hbelow : k < 2 ^ 52 * spacing n := by
      have hpow : 2 ^ 53 * 2 ^ zeros ≤ 2 ^ 52 * spacing n := by
        rw [spacing_eq, ← pow_add, ← pow_add]
        exact Nat.pow_le_pow_right (by decide) (by omega)
      refine lt_of_lt_of_le ?_ hpow
      rw [hwhole]
      exact Nat.mul_lt_mul_of_pos_right hdigits (by positivity)
    have hleading : 2 ^ 52 * spacing n ≤ n := by
      rw [spacing_eq, ← pow_add]
      exact lt_bitLength_iff.mp (by omega)
    apply (roundHalfEven_nearest n (spacing_pos n) (2 ^ 52)).trans
    rw [abs_of_nonpos (by omega), abs_of_nonpos (by omega)]
    omega
  · have hmultiple : k = digits.natAbs * 2 ^ (zeros - (bitLength n - 53)) * spacing n := by
      rw [hwhole, spacing_eq, mul_assoc, ← pow_add, Nat.sub_add_cancel hmany]
    rw [hmultiple]
    exact roundHalfEven_nearest n (spacing_pos n) _

/-- Rounding does not go below an exact number. -/
theorem le_wholeUnits (hk : Exact k) (h : k ≤ n) : k ≤ wholeUnits n := by
  have hbelow : |(k : ℤ) - n| = n - k := by
    rw [abs_of_nonpos (by omega)]
    omega
  have hnearest := wholeUnits_nearest n hk
  rw [hbelow, abs_le] at hnearest
  omega

/-- Nor does it go above one. -/
theorem wholeUnits_le (hk : Exact k) (h : n ≤ k) : wholeUnits n ≤ k := by
  have habove : |(k : ℤ) - n| = k - n := abs_of_nonneg (by omega)
  have hnearest := wholeUnits_nearest n hk
  rw [habove, abs_le] at hnearest
  omega

/-- No exact integer is nearer to `n` than the one it is rounded to. -/
theorem nearestWhole_nearest (n : ℤ) (hm : Exact m) : |nearestWhole n - n| ≤ |m - n| := by
  have hmagnitude : Exact (m.natAbs : ℤ) := by
    rcases Int.natAbs_eq m with h | h
    · rwa [← h]
    · rw [← neg_eq_iff_eq_neg.mpr h]
      exact hm.neg
  have hnearest := wholeUnits_nearest n.natAbs hmagnitude
  have hrounded : |nearestWhole n - n| = |((wholeUnits n.natAbs : ℕ) : ℤ) - (n.natAbs : ℕ)| := by
    unfold nearestWhole signedUnits
    rcases lt_or_ge n 0 with hn | hn
    · rw [decide_eq_true hn, if_pos rfl, abs_sub_comm]
      congr 1
      omega
    · rw [decide_eq_false (not_lt.mpr hn), if_neg Bool.false_ne_true]
      congr 1
      omega
  rw [hrounded]
  apply hnearest.trans
  -- the magnitudes are at most as far from each other as the integers
  rw [Int.natCast_natAbs, Int.natCast_natAbs]
  exact abs_abs_sub_abs_le_abs_sub m n

theorem natAbs_nearestWhole (n : ℤ) : (nearestWhole n).natAbs = wholeUnits n.natAbs := by
  unfold nearestWhole signedUnits
  split_ifs
  · rw [Int.natAbs_neg, Int.natAbs_natCast]
  · exact Int.natAbs_natCast _

theorem exact_nearestWhole (n : ℤ) : Exact (nearestWhole n) :=
  exact_signedUnits _ (exact_wholeUnits n.natAbs)

theorem nearestWhole_eq_self_iff {n : ℤ} : nearestWhole n = n ↔ Exact n := by
  constructor
  · intro h
    rw [← h]
    exact exact_nearestWhole n
  · intro h
    have hnearest := nearestWhole_nearest n h
    rwa [sub_self, abs_zero, abs_nonpos_iff, sub_eq_zero] at hnearest

end Exactness

section Range

/-- A magnitude that is less than half a spacing below a power of two is rounded to it. The middle
is rounded to it as well, because the number below it is odd. -/
theorem wholeUnits_lt_iff {zeros limit : ℕ} (hlimit : zeros + 54 = limit) :
    wholeUnits n < 2 ^ limit ↔ n < 2 ^ limit - 2 ^ zeros := by
  have hpow : 2 ^ limit = 2 ^ 54 * 2 ^ zeros := by rw [← hlimit, pow_add, Nat.mul_comm]
  rw [hpow]
  constructor
  · intro hrounded
    by_contra hlarge
    have hbelow : n < 2 ^ 54 * 2 ^ zeros := by
      by_contra hbeyond
      rw [← hpow] at hbeyond hrounded
      exact absurd (le_wholeUnits (exact_pow _) (Nat.not_lt.mp hbeyond)) (Nat.not_le.mpr hrounded)
    have hlength : bitLength n = zeros + 53 + 1 := by
      apply le_antisymm
      · rwa [bitLength_le_iff, Nat.add_assoc, hlimit, hpow]
      · rw [Nat.succ_le_iff, lt_bitLength_iff, pow_add]
        omega
    have hspacing : spacing n = 2 * 2 ^ zeros := by
      rw [spacing_eq, hlength, Nat.mul_comm, ← pow_succ]
      congr 1
    have hquotient : n / spacing n = 2 ^ 53 - 1 := by
      rw [hspacing]
      apply Nat.div_eq_of_lt_le <;> omega
    have hrest := Nat.div_add_mod' n (spacing n)
    have hodd : n / spacing n % 2 = 1 := by omega
    have hup : roundHalfEven n (spacing n) = n / spacing n + 1 := by
      apply roundHalfEven_of_odd hodd
      rw [hquotient, hspacing] at hrest
      rw [hspacing]
      omega
    rw [wholeUnits, hup, hquotient, hspacing] at hrounded
    omega
  · intro hsmall
    have hexact : Exact (((2 ^ 53 - 1) * 2 ^ (zeros + 1) : ℕ) : ℤ) :=
      ⟨2 ^ 53 - 1, zeros + 1, by decide, by push_cast; rfl⟩
    have hbelow : (2 ^ 53 - 1) * 2 ^ (zeros + 1) + 2 * 2 ^ zeros = 2 ^ 54 * 2 ^ zeros := by
      rw [pow_succ]
      omega
    generalize (2 ^ 53 - 1) * 2 ^ (zeros + 1) = below at hexact hbelow
    -- the exact number below the power is not exceeded, or less than half a spacing away
    rcases Nat.le_total n below with hle | hge
    · have hrounded := wholeUnits_le hexact hle
      have hpos : 0 < 2 ^ zeros := by positivity
      omega
    · have hdistance : |(below : ℤ) - n| = n - below := by
        rw [abs_of_nonpos (by omega)]
        omega
      have hnearest := wholeUnits_nearest n hexact
      rw [hdistance, abs_le] at hnearest
      omega

/-- An integer in the range of double precision. -/
def InRange (n : ℤ) : Prop := n.natAbs < 2 ^ 1024 - 2 ^ 970

instance : DecidablePred InRange := fun _ => Nat.decLt _ _

end Range

section Places

/-- With zeros behind it a whole number is rounded as it is by itself. -/
theorem roundHalfEven_shifted (n zeros : ℕ) :
    roundHalfEven (n * 2 ^ zeros) (spacing (n * 2 ^ zeros)) * spacing (n * 2 ^ zeros) =
      wholeUnits n * 2 ^ zeros := by
  rcases Nat.lt_or_ge (bitLength n) 53 with hshort | hlong
  · -- there is nothing to be rounded, because the spacing is a power of two in the zeros
    have hzeros : spacing (n * 2 ^ zeros) ∣ n * 2 ^ zeros := by
      rcases Nat.eq_zero_or_pos n with rfl | hn
      · simp
      · apply Dvd.dvd.mul_left
        rw [spacing_eq, bitLength_mul_pow hn]
        exact pow_dvd_pow 2 (by omega)
    have hone : spacing n ∣ n := by
      rw [spacing_eq, Nat.sub_eq_zero_of_le hshort.le]
      exact one_dvd n
    rw [roundHalfEven_of_dvd (spacing_pos _) hzeros, wholeUnits,
      roundHalfEven_of_dvd (spacing_pos n) hone]
  · have hn : 2 ^ 0 ≤ n := lt_bitLength_iff.mp (by omega)
    have hspacing : spacing (n * 2 ^ zeros) = spacing n * 2 ^ zeros := by
      rw [spacing_eq, spacing_eq, bitLength_mul_pow hn, ← pow_add]
      congr 1
      omega
    rw [hspacing, roundHalfEven_mul_right _ _ (by positivity), wholeUnits, Nat.mul_assoc]

/-- A whole magnitude is rounded to the nearest exact one, unless that is too large. -/
theorem ofRatio_whole (negative : Bool) (n : ℕ) :
    ofRatio negative n 1 =
      if wholeUnits n < 2 ^ 1024 then .finite negative (wholeUnits n * unitsPerOne)
      else .infinite negative := by
  have hlimit : unitLimit = 2 ^ 1024 * unitsPerOne := by
    rw [unitLimit, unitsPerOne, powerOfTwo_eq, powerOfTwo_eq, ← pow_add]
  have hunits := roundHalfEven_shifted n 1074
  rw [← powerOfTwo_eq, ← unitsPerOne] at hunits
  rw [ofRatio, ofUnits, Nat.div_one, Nat.one_mul, hunits, hlimit]
  simp only [Nat.mul_lt_mul_right Value.unitsPerOne_pos]

/-- The integers in range are those that can be taken as double-precision numbers. -/
theorem ofInt?_isSome_iff (n : ℤ) : (ofInt? n).isSome = true ↔ InRange n := by
  have hlimit : 970 + 54 = 1024 := rfl
  rw [ofInt?, InRange, ← wholeUnits_lt_iff hlimit, ofRatio_whole]
  split_ifs with hfinite
  · exact iff_of_true rfl hfinite
  · exact iff_of_false Bool.false_ne_true hfinite

end Places

end Binary64

end JsonQuery
