import JsonQuery.Proofs.Number.Rounding
import Mathlib.Tactic

/-!
What is rounded to a double-precision number: everything between the middles to its two
neighbours, and a middle itself if the number is even. Below a power of two the neighbour is twice
as near. Only the quotient that is rounded counts, so a decimal number may be written with other
powers of ten.
-/

namespace JsonQuery

theorem roundHalfEven_eq {num den k : ℕ} (hden : 0 < den) (hlow : 2 * (k * den) ≤ 2 * num + den)
    (hhigh : 2 * num ≤ 2 * (k * den) + den)
    (hodd : k % 2 = 1 → 2 * (k * den) < 2 * num + den ∧ 2 * num < 2 * (k * den) + den) :
    roundHalfEven num den = k := by
  have hrest := Nat.mod_lt num hden
  have hnum : num / den * den + num % den = num := Nat.div_add_mod' num den
  have hquotient : num / den = k ∨ num / den + 1 = k := by
    rcases Nat.lt_trichotomy (num / den + 1) k with hk | hk | hk
    · have hle : (num / den + 2) * den ≤ k * den := Nat.mul_le_mul_right den hk
      rw [Nat.add_mul] at hle
      omega
    · exact .inr hk
    · rcases Nat.lt_or_ge k (num / den) with hless | hge
      · have hle : (k + 1) * den ≤ num / den * den := Nat.mul_le_mul_right den hless
        rw [Nat.add_mul, Nat.one_mul] at hle
        omega
      · exact .inl (by omega)
  unfold roundHalfEven
  dsimp only
  rcases hquotient with rfl | rfl
  · rcases Nat.mod_two_eq_zero_or_one (num / den) with heven | hoddk
    · rw [heven, beq_self_eq_true, if_pos rfl]
      split_ifs <;> omega
    · have hstrict := (hodd hoddk).2
      rw [if_pos (by omega)]
  · rw [Nat.add_mul, Nat.one_mul] at hlow hhigh hodd
    rcases Nat.mod_two_eq_zero_or_one (num / den) with heven | hoddk
    · have hstrict := (hodd (by omega)).1
      rw [if_neg (by omega), if_pos (by omega)]
    · rw [hoddk, if_neg (by omega)]
      split_ifs
      · rfl
      · rename_i htie
        exact absurd htie (by decide)
      · rfl

namespace Binary64

variable {units num den below above : ℕ}

/-- The magnitudes that double precision has. -/
def IsMagnitude (units : ℕ) : Prop := spacing units ∣ units ∧ units < unitLimit

instance (units : ℕ) : Decidable (IsMagnitude units) :=
  inferInstanceAs (Decidable (spacing units ∣ units ∧ units < unitLimit))

/-- A number as double precision has it. -/
inductive IsDouble : Binary64 → Prop where
  | nan : IsDouble .nan
  | spelledNan : IsDouble .spelledNan
  | infinite (negative : Bool) : IsDouble (.infinite negative)
  | finite (negative : Bool) {units : ℕ} (h : IsMagnitude units) : IsDouble (.finite negative units)

instance : DecidablePred IsDouble
  | .nan => .isTrue .nan
  | .spelledNan => .isTrue .spelledNan
  | .infinite negative => .isTrue (.infinite negative)
  | .finite negative units =>
      decidable_of_iff (IsMagnitude units) ⟨.finite negative, fun | .finite _ h => h⟩

/-- Twice the distance to the next number below. -/
def lowGap (units : ℕ) : ℕ :=
  if units / spacing units == powerOfTwo 52 && 1 < spacing units then spacing units
  else 2 * spacing units

/-- Whether a distance is less than a bound, or reaches it where the number is even. -/
def Within (units distance bound : ℕ) : Prop :=
  if units / spacing units % 2 == 0 then distance ≤ bound else distance < bound

instance (units distance bound : ℕ) : Decidable (Within units distance bound) :=
  inferInstanceAs (Decidable
    (if units / spacing units % 2 == 0 then distance ≤ bound else distance < bound))

theorem within_of_lt {distance bound : ℕ} (h : distance < bound) :
    Within units distance bound := by
  unfold Within
  split
  · exact h.le
  · exact h

theorem Within.le {distance bound : ℕ} (h : Within units distance bound) : distance ≤ bound := by
  unfold Within at h
  split at h
  · exact h
  · exact h.le

theorem Within.lt_of_odd {distance bound : ℕ} (h : Within units distance bound)
    (hodd : units / spacing units % 2 = 1) : distance < bound := by
  rw [Within, hodd] at h
  exact h

/-- A magnitude with a spacing above one has more than 53 binary digits. -/
theorem bitLength_of_spacing (h : 1 < spacing units) :
    53 < bitLength units ∧ 2 ^ 52 * spacing units ≤ units := by
  have hlong : 53 < bitLength units := by
    by_contra hshort
    rw [spacing_eq, Nat.sub_eq_zero_of_le (by omega)] at h
    exact absurd h (by decide)
  refine ⟨hlong, ?_⟩
  rw [spacing_eq, ← pow_add]
  exact lt_bitLength_iff.mp (by omega)

/-- Magnitudes with as many binary digits lie as far apart. -/
theorem bitLength_eq_of_le {m n : ℕ} (hle : n ≤ m) (hlt : m < 2 ^ bitLength n) :
    bitLength m = bitLength n := by
  apply le_antisymm (bitLength_le_iff.mpr hlt)
  rcases Nat.eq_zero_or_pos (bitLength n) with hzero | hpos
  · omega
  · have hleading : 2 ^ (bitLength n - 1) ≤ n := lt_bitLength_iff.mp (by omega)
    have hlonger := lt_bitLength_iff.mpr (hleading.trans hle)
    omega

/-- The magnitude behind the last one with a number of binary digits is a power of two. -/
theorem add_spacing_le (h : spacing units ∣ units) :
    units + spacing units ≤ 2 ^ bitLength units := by
  have hlt : units < 2 ^ bitLength units := bitLength_le_iff.mp le_rfl
  have hpow : spacing units ∣ 2 ^ bitLength units := by
    rw [spacing_eq]
    exact pow_dvd_pow 2 (Nat.sub_le _ _)
  obtain ⟨k, hk⟩ := hpow
  obtain ⟨j, hj⟩ := h
  have hless : j < k := by
    rw [hk] at hlt
    conv at hlt => lhs; rw [hj]
    exact Nat.lt_of_mul_lt_mul_left hlt
  have hle : spacing units * (j + 1) ≤ spacing units * k := Nat.mul_le_mul_left _ hless
  rw [Nat.mul_add, Nat.mul_one, ← hj, ← hk] at hle
  exact hle

/-- What is rounded to a magnitude by the spacing that is found for it. -/
theorem ofUnits_eq {s k : ℕ} (hden : 0 < den) (hspacing : spacing (num / den) = s)
    (hunits : k * s = units) (hlimit : units < unitLimit)
    (hlow : 2 * (units * den) ≤ 2 * num + den * s) (hhigh : 2 * num ≤ 2 * (units * den) + den * s)
    (hodd : k % 2 = 1 →
      2 * (units * den) < 2 * num + den * s ∧ 2 * num < 2 * (units * den) + den * s)
    (negative : Bool) : ofUnits negative num den = .finite negative units := by
  have hs : 0 < s := hspacing ▸ spacing_pos _
  have hmul : k * (den * s) = units * den := by
    rw [← hunits]
    ring
  have hround : roundHalfEven num (den * s) = k := by
    rw [← hmul] at hlow hhigh hodd
    exact roundHalfEven_eq (Nat.mul_pos hden hs) hlow hhigh hodd
  rw [ofUnits, hspacing, hround, hunits, if_pos hlimit]

/-- From a magnitude up to the middle to the next one numbers are rounded to it. -/
theorem ofUnits_of_above (h : IsMagnitude units) (hden : 0 < den)
    (hnum : num = units * den + above) (habove : Within units (2 * above) (spacing units * den))
    (negative : Bool) : ofUnits negative num den = .finite negative units := by
  have hmantissa : units / spacing units * spacing units = units := Nat.div_mul_cancel h.1
  have hle := habove.le
  have hpos : 0 < spacing units * den := Nat.mul_pos (spacing_pos _) hden
  have hspacing : spacing (num / den) = spacing units := by
    refine congrArg (fun length => powerOfTwo (length - 53)) (bitLength_eq_of_le ?_ ?_)
    · rw [Nat.le_div_iff_mul_le hden]
      omega
    · have hnext := Nat.mul_le_mul_right den (add_spacing_le h.1)
      rw [Nat.add_mul] at hnext
      rw [Nat.div_lt_iff_lt_mul hden]
      omega
  refine ofUnits_eq hden hspacing hmantissa h.2 ?_ ?_ (fun hodd => ?_) negative
  all_goals rw [Nat.mul_comm den]
  · omega
  · omega
  · have hless := habove.lt_of_odd hodd
    omega

theorem lowGap_cases (units : ℕ) :
    lowGap units = spacing units ∧ units / spacing units = 2 ^ 52 ∧ 1 < spacing units ∨
    lowGap units = 2 * spacing units ∧
      ¬ (units / spacing units = 2 ^ 52 ∧ 1 < spacing units) := by
  unfold lowGap
  split
  · rename_i h
    simp only [Bool.and_eq_true, beq_iff_eq, decide_eq_true_eq] at h
    exact .inl ⟨rfl, h⟩
  · rename_i h
    simp only [Bool.and_eq_true, beq_iff_eq, decide_eq_true_eq] at h
    exact .inr ⟨rfl, h⟩

/-- A little below a power of two the magnitudes lie twice as near to each other. -/
theorem two_mul_spacing (hpower : units = 2 ^ 52 * spacing units) (hwide : 1 < spacing units)
    (hden : 0 < den) (hnum : num + below = units * den) (hbelow : 0 < below)
    (hle : 4 * below ≤ spacing units * den) : 2 * spacing (num / den) = spacing units := by
  obtain ⟨hlong, -⟩ := bitLength_of_spacing hwide
  obtain ⟨length, hlength⟩ : ∃ length, bitLength units = length + 54 :=
    ⟨bitLength units - 54, by omega⟩
  have hdouble : spacing units = 2 * 2 ^ length := by
    rw [spacing_eq, hlength, ← pow_succ']
    rfl
  have hunits : 2 ^ 53 * 2 ^ length = units := by
    rw [hpower, hdouble]
    ring
  have hmul : 2 ^ 53 * (2 ^ length * den) = units * den := by
    rw [← hunits, Nat.mul_assoc]
  rw [hdouble, Nat.mul_assoc] at hle
  have hshorter : bitLength (num / den) = length + 53 := by
    apply le_antisymm
    · rw [bitLength_le_iff, Nat.add_comm, pow_add, hunits, Nat.div_lt_iff_lt_mul hden]
      omega
    · rw [Nat.succ_le_iff, lt_bitLength_iff, Nat.le_div_iff_mul_le hden, Nat.add_comm, pow_add,
        Nat.mul_assoc]
      omega
  rw [hdouble, spacing_eq, hshorter]
  rfl

/-- A little below any other magnitude they lie as far apart as above it. -/
theorem spacing_div_eq (hinside : ¬ (units / spacing units = 2 ^ 52 ∧ 1 < spacing units))
    (hden : 0 < den) (hnum : num + below = units * den) (hle : 2 * below ≤ spacing units * den) :
    spacing (num / den) = spacing units := by
  have hquotient : num / den ≤ units := by
    rw [← Nat.mul_div_cancel units hden]
    exact Nat.div_le_div_right (by omega)
  have hshorter : bitLength (num / den) ≤ bitLength units :=
    bitLength_le_iff.mpr (hquotient.trans_lt (bitLength_le_iff.mp le_rfl))
  rw [spacing_eq, spacing_eq]
  by_cases hwide : 1 < spacing units
  · obtain ⟨hlong, hleading⟩ := bitLength_of_spacing hwide
    have hbeyond : (2 ^ 52 + 1) * spacing units ≤ units := by
      rw [← Nat.le_div_iff_mul_le (spacing_pos units)] at hleading ⊢
      omega
    have hmul := Nat.mul_le_mul_right den hbeyond
    rw [Nat.mul_assoc] at hmul
    have hpower : 2 ^ (bitLength units - 1) = 2 ^ 52 * spacing units := by
      rw [spacing_eq, ← pow_add]
      congr 1
      omega
    have hlonger : bitLength units - 1 < bitLength (num / den) := by
      rw [lt_bitLength_iff, hpower, Nat.le_div_iff_mul_le hden, Nat.mul_assoc]
      omega
    congr 2
    omega
  · have hpow : 2 ^ (bitLength units - 53) ≤ 1 := by
      rw [← spacing_eq]
      omega
    have hnone : bitLength units - 53 = 0 :=
      (Nat.pow_eq_one.mp (le_antisymm hpow Nat.one_le_two_pow)).resolve_left (by decide)
    congr 1
    omega

/-- Down to the middle to the next magnitude below numbers are rounded to a magnitude. -/
theorem ofUnits_of_below (h : IsMagnitude units) (hden : 0 < den)
    (hnum : num + below = units * den) (hbelow : Within units (4 * below) (lowGap units * den))
    (negative : Bool) : ofUnits negative num den = .finite negative units := by
  have hmantissa : units / spacing units * spacing units = units := Nat.div_mul_cancel h.1
  have hle := hbelow.le
  have hpos : 0 < spacing units * den := Nat.mul_pos (spacing_pos _) hden
  rcases lowGap_cases units with ⟨hgap, hpower, hwide⟩ | ⟨hgap, hinside⟩
  · rcases Nat.eq_zero_or_pos below with rfl | hless
    · have hexact : num = units * den + 0 := hnum
      exact ofUnits_of_above h hden hexact (within_of_lt hpos) negative
    · rw [hpower] at hmantissa
      rw [hgap] at hle
      have hdouble := two_mul_spacing hmantissa.symm hwide hden hnum hless hle
      have hunits : 2 ^ 53 * spacing (num / den) = units := by
        rw [← hmantissa, ← hdouble]
        ring
      rw [← hdouble, Nat.mul_assoc] at hle
      refine ofUnits_eq hden rfl hunits h.2 ?_ ?_ (fun hodd => absurd hodd (by decide)) negative
      · rw [Nat.mul_comm den]
        omega
      · omega
  · rw [hgap, Nat.mul_assoc] at hle hbelow
    have hspacing := spacing_div_eq hinside hden hnum (by omega)
    refine ofUnits_eq hden hspacing hmantissa h.2 ?_ ?_ (fun hodd => ?_) negative
    all_goals rw [Nat.mul_comm den]
    · omega
    · omega
    · have hless := hbelow.lt_of_odd hodd
      omega

theorem ofUnits_mul_right (negative : Bool) (num den : ℕ) {factor : ℕ} (h : 0 < factor) :
    ofUnits negative (num * factor) (den * factor) = ofUnits negative num den := by
  rw [ofUnits, ofUnits, Nat.mul_div_mul_right _ _ h, Nat.mul_right_comm,
    roundHalfEven_mul_right _ _ h]

/-- Only the quotient counts. -/
theorem ofUnits_congr {num' den' : ℕ} (hden : 0 < den) (hden' : 0 < den')
    (h : num * den' = num' * den) (negative : Bool) :
    ofUnits negative num den = ofUnits negative num' den' := by
  rw [← ofUnits_mul_right negative num den hden', h, Nat.mul_comm den,
    ofUnits_mul_right negative _ _ hden]

/-- A decimal number in the range is a quotient of powers of ten. -/
theorem ofDecimal_eq {digits : ℕ} {exponent : ℤ} (hdigits : 0 < digits)
    (hleast : -330 ≤ exponent + decimalLength digits)
    (hgreatest : exponent + decimalLength digits ≤ 310) (negative : Bool) :
    ofDecimal negative digits exponent =
      ofUnits negative (digits * (unitsPerOne * powerOfTen exponent.toNat))
        (powerOfTen (-exponent).toNat) := by
  have hzero : (digits == 0) = false := by simpa using hdigits.ne'
  have hone : powerOfTen 0 = 1 := rfl
  unfold ofDecimal
  dsimp only
  rw [hzero, decide_eq_false (Int.not_lt.mpr hleast), Bool.or_false, if_neg Bool.false_ne_true,
    if_neg (Int.not_lt.mpr hgreatest)]
  split
  · rename_i hwhole
    have hnone : (-exponent).toNat = 0 := by omega
    rw [hnone, hone, ofRatio, Nat.mul_assoc, Nat.mul_comm unitsPerOne]
  · rename_i hfraction
    have hnone : exponent.toNat = 0 := by omega
    rw [hnone, hone, ofRatio, Nat.mul_one]

theorem spacing_dvd_of_exact {digits zeros : ℕ} (h : digits ≤ 2 ^ 53) :
    spacing (digits * 2 ^ zeros) ∣ digits * 2 ^ zeros := by
  rcases h.lt_or_eq with hless | rfl
  · have hlength : bitLength (digits * 2 ^ zeros) ≤ 53 + zeros := by
      rw [bitLength_le_iff, pow_add]
      exact Nat.mul_lt_mul_of_pos_right hless (by positivity)
    apply Dvd.dvd.mul_left
    rw [spacing_eq]
    exact pow_dvd_pow 2 (by omega)
  · rw [← pow_add, spacing_eq]
    have hlength : bitLength (2 ^ (53 + zeros)) ≤ 54 + zeros :=
      bitLength_le_iff.mpr (Nat.pow_lt_pow_right (by decide) (by omega))
    exact pow_dvd_pow 2 (by omega)

/-- What a quotient is rounded to is a number as double precision has it. -/
theorem isDouble_ofUnits (negative : Bool) (num den : ℕ) :
    IsDouble (ofUnits negative num den) := by
  have hdigits : roundHalfEven num (den * spacing (num / den)) ≤ 2 ^ 53 := by
    have hle := roundHalfEven_le num (den * spacing (num / den))
    have hless : num / den / spacing (num / den) < 2 ^ 53 := by
      rw [Nat.div_lt_iff_lt_mul (spacing_pos _)]
      exact lt_mul_spacing _
    rw [Nat.div_div_eq_div_mul] at hless
    omega
  have hdvd := @spacing_dvd_of_exact _ (bitLength (num / den) - 53) hdigits
  rw [← spacing_eq] at hdvd
  rw [ofUnits]
  split
  · rename_i hlimit
    exact .finite negative ⟨hdvd, hlimit⟩
  · exact .infinite negative

theorem isDouble_ofDecimal (negative : Bool) (digits : ℕ) (exponent : ℤ) :
    IsDouble (ofDecimal negative digits exponent) := by
  have hzero : IsMagnitude 0 := ⟨dvd_zero _, powerOfTwo_pos 2098⟩
  refine iteInduction (fun _ => .finite negative hzero) fun _ => ?_
  refine iteInduction (fun _ => .infinite negative) fun _ => ?_
  exact iteInduction (fun _ => isDouble_ofUnits _ _ _) fun _ => isDouble_ofUnits _ _ _

end Binary64

end JsonQuery
