import JsonQuery.Number.Decimal
import JsonQuery.Proofs.Number.Nearest
import JsonQuery.Proofs.Number.Reading
import Mathlib.Data.List.TakeWhile
import Mathlib.Tactic

/-!
The fewest digits of a double-precision number. The multiple of a power of ten that is chosen for a
number lies so near to it that it is rounded to it, and with seventeen digits there always is one to
choose. So a number is what its fewest digits are rounded to.
-/

namespace JsonQuery

namespace Decimal

open Binary64

variable {units k : ℕ} {power : ℤ}

/-- The choice between the two neighbours by what each of them may be away from the number. -/
theorem neighbour?_eq (units : ℕ) (power : ℤ) :
    neighbour? units power =
      let num := (scaled units power).1
      let den := (scaled units power).2
      let lowFits := Within units (4 * (num % den)) (lowGap units * powerOfTen (-power).toNat)
      let highFits :=
        Within units (2 * (den - num % den)) (spacing units * powerOfTen (-power).toNat)
      if lowFits && highFits then
        if num % den < den - num % den then some (num / den)
        else if den - num % den < num % den then some (num / den + 1)
        else if num / den % 2 == 0 then some (num / den) else some (num / den + 1)
      else if lowFits then some (num / den)
      else if highFits then some (num / den + 1)
      else none := rfl

theorem scaled_fst (units : ℕ) (power : ℤ) :
    (scaled units power).1 = units * powerOfTen (-power).toNat := rfl

theorem scaled_snd (units : ℕ) (power : ℤ) :
    (scaled units power).2 = unitsPerOne * powerOfTen power.toNat := rfl

theorem scaled_den_pos (units : ℕ) (power : ℤ) : 0 < (scaled units power).2 :=
  Nat.mul_pos (powerOfTwo_pos _) (powerOfTen_pos _)

/-- A neighbour that is chosen is no further away from the number than is rounded to it. -/
theorem neighbour?_eq_some (h : neighbour? units power = some k) :
    (scaled units power).1 / (scaled units power).2 ≤ k ∧
    ((∃ below, k * (scaled units power).2 + below = (scaled units power).1 ∧
      Within units (4 * below) (lowGap units * powerOfTen (-power).toNat)) ∨
    ∃ above, k * (scaled units power).2 = (scaled units power).1 + above ∧
      Within units (2 * above) (spacing units * powerOfTen (-power).toNat)) := by
  have hden := scaled_den_pos units power
  rw [neighbour?_eq] at h
  generalize (scaled units power).1 = num at *
  generalize (scaled units power).2 = den at *
  have hrest := Nat.mod_lt num hden
  have hnum : num / den * den + num % den = num := Nat.div_add_mod' num den
  have hbelow (hfits : Within units (4 * (num % den)) (lowGap units * powerOfTen (-power).toNat)) :
      ∃ below, num / den * den + below = num ∧
        Within units (4 * below) (lowGap units * powerOfTen (-power).toNat) := ⟨_, hnum, hfits⟩
  have habove (hfits : Within units (2 * (den - num % den))
        (spacing units * powerOfTen (-power).toNat)) :
      ∃ above, (num / den + 1) * den = num + above ∧
        Within units (2 * above) (spacing units * powerOfTen (-power).toNat) := by
    refine ⟨_, ?_, hfits⟩
    rw [Nat.add_mul, Nat.one_mul]
    omega
  simp only [Bool.and_eq_true, decide_eq_true_eq] at h
  split_ifs at h with hboth hless hmore heven hlow hhigh
  · obtain rfl := Option.some.inj h
    exact ⟨le_rfl, .inl (hbelow hboth.1)⟩
  · obtain rfl := Option.some.inj h
    exact ⟨Nat.le_succ _, .inr (habove hboth.2)⟩
  · obtain rfl := Option.some.inj h
    exact ⟨le_rfl, .inl (hbelow hboth.1)⟩
  · obtain rfl := Option.some.inj h
    exact ⟨Nat.le_succ _, .inr (habove hboth.2)⟩
  · obtain rfl := Option.some.inj h
    exact ⟨le_rfl, .inl (hbelow hlow)⟩
  · obtain rfl := Option.some.inj h
    exact ⟨Nat.le_succ _, .inr (habove hhigh)⟩

/-- Multiples of a power of ten that lie near enough to each other have one to choose. -/
theorem exists_neighbour
    (hnear : (scaled units power).2 < spacing units * powerOfTen (-power).toNat)
    (hnearer : lowGap units = spacing units →
      4 * (scaled units power).2 < 3 * (spacing units * powerOfTen (-power).toNat)) :
    ∃ k, neighbour? units power = some k := by
  have hden := scaled_den_pos units power
  rw [← Option.isSome_iff_exists, neighbour?_eq]
  generalize (scaled units power).1 = num at *
  generalize (scaled units power).2 = den at *
  have hrest := Nat.mod_lt num hden
  have hfits : Within units (4 * (num % den)) (lowGap units * powerOfTen (-power).toNat) ∨
      Within units (2 * (den - num % den)) (spacing units * powerOfTen (-power).toNat) := by
    by_contra hnone
    rw [not_or] at hnone
    have hlow := mt within_of_lt hnone.1
    have hhigh := mt within_of_lt hnone.2
    rcases lowGap_cases units with ⟨hgap, -⟩ | ⟨hgap, -⟩
    · have hthird := hnearer hgap
      rw [hgap] at hlow
      omega
    · rw [hgap, Nat.mul_assoc] at hlow
      omega
  dsimp only
  simp only [Bool.and_eq_true, decide_eq_true_eq]
  split_ifs with hboth hless hmore heven hlow hhigh
  all_goals first
    | rfl
    | exact absurd hfits (not_or.mpr ⟨hlow, hhigh⟩)

theorem reaches_iff : reaches units power = true ↔
    unitsPerOne * powerOfTen power.toNat ≤ units * powerOfTen (-power).toNat := by
  simp only [reaches, scaled]
  exact decide_eq_true_iff

/-- A number that reaches a power of ten fills as many digits behind it as are asked for. -/
theorem mul_powerOfTen_le (h : reaches units power = true) (extra : ℕ) :
    (scaled units (power - extra)).2 * powerOfTen extra ≤ (scaled units (power - extra)).1 := by
  rw [reaches_iff] at h
  have hexponents : (power - extra).toNat + extra + (-power).toNat =
      power.toNat + (-(power - extra)).toNat := by omega
  have hpowers := congrArg powerOfTen hexponents
  rw [powerOfTen_add, powerOfTen_add, powerOfTen_add] at hpowers
  apply Nat.le_of_mul_le_mul_right _ (powerOfTen_pos (-power).toNat)
  rw [scaled_fst, scaled_snd]
  calc unitsPerOne * powerOfTen (power - extra).toNat * powerOfTen extra *
        powerOfTen (-power).toNat
      = unitsPerOne * (powerOfTen (power - extra).toNat * powerOfTen extra *
        powerOfTen (-power).toNat) := by ring
    _ = unitsPerOne * powerOfTen power.toNat * powerOfTen (-(power - extra)).toNat := by
      rw [hpowers]
      ring
    _ ≤ units * powerOfTen (-power).toNat * powerOfTen (-(power - extra)).toNat :=
      Nat.mul_le_mul_right _ h
    _ = units * powerOfTen (-(power - extra)).toNat * powerOfTen (-power).toNat := by ring

/-- Seventeen digits suffice for every number. -/
theorem exists_neighbour_seventeen (hdvd : spacing units ∣ units)
    (h : reaches units power = true) : ∃ k, neighbour? units (power - (16 : ℕ)) = some k := by
  have hlarge := mul_powerOfTen_le h 16
  have hten : powerOfTen 16 = 10 ^ 16 := rfl
  have hpos := powerOfTen_pos (-(power - (16 : ℕ))).toNat
  rw [scaled_fst, hten] at hlarge
  have hmantissa : units / spacing units * spacing units = units := Nat.div_mul_cancel hdvd
  have hgap : 0 < spacing units * powerOfTen (-(power - (16 : ℕ))).toNat :=
    Nat.mul_pos (spacing_pos units) hpos
  apply exists_neighbour
  · have hless := Nat.mul_lt_mul_of_pos_right (lt_mul_spacing units) hpos
    rw [Nat.mul_assoc] at hless
    omega
  · intro hlow
    rcases lowGap_cases units with ⟨-, hpower, -⟩ | ⟨htwice, -⟩
    · have hunits : units * powerOfTen (-(power - (16 : ℕ))).toNat =
          2 ^ 52 * (spacing units * powerOfTen (-(power - (16 : ℕ))).toNat) := by
        rw [← Nat.mul_assoc, ← hpower, hmantissa]
      omega
    · have := spacing_pos units
      omega

/-- The estimate of the leading power from the binary length is too large by at most one. -/
theorem reaches_estimate : ∀ length : ℕ, length < 2098 →
    reaches (2 ^ length) (((length : ℤ) - 1074) * 30103 / 100000 - 1) = true := by
  decide +kernel

theorem reaches_of_le {m n : ℕ} (hle : m ≤ n) (h : reaches m power = true) :
    reaches n power = true := by
  rw [reaches_iff] at h ⊢
  exact h.trans (Nat.mul_le_mul_right _ hle)

/-- A number reaches its leading power. -/
theorem reaches_leadingPower (hpos : 0 < units) (hlimit : units < unitLimit) :
    reaches units (leadingPower units) = true := by
  rw [unitLimit, powerOfTwo_eq] at hlimit
  have hlog {length : ℕ} (hless : units < 2 ^ length) : Nat.log2 units < length :=
    (Nat.log2_lt hpos.ne').mpr hless
  have hleast : reaches units (((Nat.log2 units : ℤ) - 1074) * 30103 / 100000 - 1) = true :=
    reaches_of_le (Nat.log2_self_le hpos.ne') (reaches_estimate _ (hlog hlimit))
  unfold leadingPower
  dsimp only
  split
  · exact hleast
  · rename_i hestimate
    split
    · assumption
    · simpa using hestimate

theorem neg_le_leadingPower (units : ℕ) : -326 ≤ leadingPower units := by
  unfold leadingPower
  dsimp only
  split_ifs <;> omega

/-- The fewest digits are those of a multiple of a power of ten that is chosen. -/
theorem exists_shortest (h : IsMagnitude units) (hpos : 0 < units) :
    ∃ k, ∃ extra : ℕ, shortest units = ofScaled k (leadingPower units - extra) ∧
      neighbour? units (leadingPower units - extra) = some k := by
  obtain ⟨k, hk⟩ := exists_neighbour_seventeen h.1 (reaches_leadingPower hpos h.2)
  rw [shortest]
  dsimp only
  cases hfound : (List.range 17).findSome? fun (extra : Nat) =>
      (neighbour? units (leadingPower units - (extra : Int))).map
        (ofScaled · (leadingPower units - (extra : Int))) with
  | none =>
      have hlast := List.findSome?_eq_none_iff.mp hfound 16 (by decide)
      rw [hk] at hlast
      cases hlast
  | some d =>
      obtain ⟨extra, -, hextra⟩ := List.exists_of_findSome?_eq_some hfound
      obtain ⟨k, hchosen, rfl⟩ := Option.map_eq_some_iff.mp hextra
      exact ⟨k, extra, rfl, hchosen⟩

/-- The digits of a number without the zeros at their end. -/
theorem exists_zeros_of_ofScaled {n : ℕ} (hn : 0 < n) (power : ℤ) :
    ∃ zeros, Nat.toDigits 10 n = (ofScaled n power).digits ++ List.replicate zeros '0' := by
  have hzeros : (Nat.toDigits 10 n).reverse.takeWhile (· == '0') =
      List.replicate ((Nat.toDigits 10 n).reverse.takeWhile (· == '0')).length '0' :=
    List.eq_replicate_of_mem fun c hc => by simpa using List.mem_takeWhile_imp hc
  have hsplit : Nat.toDigits 10 n =
      ((Nat.toDigits 10 n).reverse.dropWhile (· == '0')).reverse ++
        List.replicate ((Nat.toDigits 10 n).reverse.takeWhile (· == '0')).length '0' := by
    rw [← List.reverse_replicate, ← hzeros, ← List.reverse_append,
      List.takeWhile_append_dropWhile, List.reverse_reverse]
  have hne : ((Nat.toDigits 10 n).reverse.dropWhile (· == '0')).reverse ≠ [] := by
    intro hnone
    rw [hnone, List.nil_append] at hsplit
    obtain ⟨c, cs, hdigits⟩ := List.exists_cons_of_ne_nil (Nat.toDigits_ne_nil (b := 10) (n := n))
    have hzero : c ∈ Nat.toDigits 10 n := by
      rw [hdigits]
      exact List.mem_cons_self
    rw [hsplit] at hzero
    apply head?_toDigits_ne_zero hn
    rw [hdigits, List.eq_of_mem_replicate hzero]
    rfl
  have htrimmed : (ofScaled n power).digits =
      ((Nat.toDigits 10 n).reverse.dropWhile (· == '0')).reverse := by
    rw [ofScaled]
    exact if_neg (by simpa using hne)
  rw [htrimmed]
  exact ⟨_, hsplit⟩

/-- A chosen neighbour is neither too small nor too large to be computed with. -/
theorem neighbour?_bounds (h : IsMagnitude units) (hpos : 0 < units) {extra : ℕ}
    (hchosen : neighbour? units (leadingPower units - extra) = some k) :
    0 < k ∧ -330 ≤ leadingPower units - extra + decimalLength k ∧
      leadingPower units - extra + decimalLength k ≤ 310 := by
  obtain ⟨hquotient, hnear⟩ := neighbour?_eq_some hchosen
  have hden := scaled_den_pos units (leadingPower units - extra)
  have hfront : powerOfTen extra ≤ k := by
    refine le_trans ?_ hquotient
    rw [Nat.le_div_iff_mul_le hden, Nat.mul_comm]
    exact mul_powerOfTen_le (reaches_leadingPower hpos h.2) extra
  have hk : 0 < k := (powerOfTen_pos extra).trans_le hfront
  have hlong := (lt_decimalLength_iff hk extra).mpr hfront
  have hleast := neg_le_leadingPower units
  refine ⟨hk, by omega, ?_⟩
  generalize leadingPower units - extra = power at *
  rw [scaled_fst, scaled_snd] at hnear
  have hspacing := Nat.mul_le_mul_right (powerOfTen (-power).toNat) (Nat.le_of_dvd hpos h.1)
  have hlimit := Nat.mul_lt_mul_of_pos_right h.2 (powerOfTen_pos (-power).toNat)
  have hless : k * (unitsPerOne * powerOfTen power.toNat) <
      2 * (unitLimit * powerOfTen (-power).toNat) := by
    rcases hnear with ⟨below, hbelow, -⟩ | ⟨above, habove, hwithin⟩
    · omega
    · have hle := hwithin.le
      omega
  by_contra hlarge
  have hleading : powerOfTen (decimalLength k - 1) ≤ k :=
    (lt_decimalLength_iff hk _).mp (by omega)
  have hexponents : 310 + (-power).toNat ≤ decimalLength k - 1 + power.toNat := by omega
  have hbound : 2 * unitLimit ≤ powerOfTen 310 * unitsPerOne := by decide +kernel
  have hpowers :
      powerOfTen (310 + (-power).toNat) ≤ powerOfTen (decimalLength k - 1 + power.toNat) :=
    Nat.pow_le_pow_right (by decide) hexponents
  rw [powerOfTen_add, powerOfTen_add] at hpowers
  refine absurd hless (Nat.not_lt.mpr ?_)
  calc 2 * (unitLimit * powerOfTen (-power).toNat)
      = 2 * unitLimit * powerOfTen (-power).toNat := by ring
    _ ≤ powerOfTen 310 * unitsPerOne * powerOfTen (-power).toNat :=
      Nat.mul_le_mul_right _ hbound
    _ = unitsPerOne * (powerOfTen 310 * powerOfTen (-power).toNat) := by ring
    _ ≤ unitsPerOne * (powerOfTen (decimalLength k - 1) * powerOfTen power.toNat) :=
      Nat.mul_le_mul_left _ hpowers
    _ ≤ unitsPerOne * (k * powerOfTen power.toNat) :=
      Nat.mul_le_mul_left _ (Nat.mul_le_mul_right _ hleading)
    _ = k * (unitsPerOne * powerOfTen power.toNat) := by ring

/-- What is chosen for a number is rounded to it. -/
theorem ofUnits_neighbour (h : IsMagnitude units) (hk : neighbour? units power = some k)
    (negative : Bool) :
    ofUnits negative (k * (unitsPerOne * powerOfTen power.toNat)) (powerOfTen (-power).toNat) =
      .finite negative units := by
  obtain ⟨-, ⟨below, hbelow, hwithin⟩ | ⟨above, habove, hwithin⟩⟩ := neighbour?_eq_some hk
  · exact ofUnits_of_below h (powerOfTen_pos _) hbelow hwithin negative
  · exact ofUnits_of_above h (powerOfTen_pos _) habove hwithin negative

/-- The fewest digits of a number are rounded to it, also with zeros behind them. -/
theorem ofDecimal_shortest (h : IsMagnitude units) (hpos : 0 < units) (negative : Bool)
    (zeros : ℕ) :
    ofDecimal negative (natOfDigits (shortest units).digits * powerOfTen zeros)
        ((shortest units).leading + 1 - (shortest units).digits.length - zeros) =
      .finite negative units := by
  obtain ⟨k, extra, hshortest, hchosen⟩ := exists_shortest h hpos
  obtain ⟨hk, hleast, hgreatest⟩ := neighbour?_bounds h hpos hchosen
  generalize leadingPower units - extra = power at *
  obtain ⟨trailing, hsplit⟩ := exists_zeros_of_ofScaled hk power
  have hleading : (ofScaled k power).leading = power + decimalLength k - 1 := rfl
  have hlength := congrArg List.length hsplit
  rw [← decimalLength, List.length_append, List.length_replicate] at hlength
  have hvalue : natOfDigits (ofScaled k power).digits * powerOfTen trailing = k := by
    rw [← natOfDigits_append_zeros, ← hsplit, natOfDigits_toDigits]
  rw [hshortest, hleading]
  generalize (ofScaled k power).digits.length = length at *
  generalize natOfDigits (ofScaled k power).digits = digits at *
  have hdigits : 0 < digits := Nat.pos_of_mul_pos_right (hvalue ▸ hk)
  have hshort := decimalLength_mul_powerOfTen hdigits trailing
  rw [hvalue] at hshort
  have hlong := decimalLength_mul_powerOfTen hdigits zeros
  rw [ofDecimal_eq (Nat.mul_pos hdigits (powerOfTen_pos zeros)) (by omega) (by omega),
    ← ofUnits_neighbour h hchosen negative]
  apply ofUnits_congr (powerOfTen_pos _) (powerOfTen_pos _)
  have hexponents : zeros + (power + decimalLength k - 1 + 1 - length - zeros).toNat +
      (-power).toNat = trailing + power.toNat +
        (-(power + decimalLength k - 1 + 1 - length - zeros)).toNat := by omega
  generalize power + decimalLength k - 1 + 1 - length - zeros = exponent at *
  have hpowers := congrArg powerOfTen hexponents
  simp only [powerOfTen_add] at hpowers
  calc digits * powerOfTen zeros * (unitsPerOne * powerOfTen exponent.toNat) *
        powerOfTen (-power).toNat
      = digits * unitsPerOne * (powerOfTen zeros * powerOfTen exponent.toNat *
        powerOfTen (-power).toNat) := by ring
    _ = digits * powerOfTen trailing * (unitsPerOne * powerOfTen power.toNat) *
        powerOfTen (-exponent).toNat := by
      rw [hpowers]
      ring
    _ = k * (unitsPerOne * powerOfTen power.toNat) * powerOfTen (-exponent).toNat := by
      rw [hvalue]

/-- The fewest digits of a number do not begin with a zero. -/
theorem head?_shortest (h : IsMagnitude units) (hpos : 0 < units) :
    (shortest units).digits.head? ≠ some '0' := by
  obtain ⟨k, extra, hshortest, hchosen⟩ := exists_shortest h hpos
  obtain ⟨hk, -⟩ := neighbour?_bounds h hpos hchosen
  obtain ⟨trailing, hsplit⟩ := exists_zeros_of_ofScaled hk (leadingPower units - extra)
  have hhead := head?_toDigits_ne_zero hk
  rw [hsplit, List.head?_append_of_ne_nil _ (ofScaled_numeric _ _).1] at hhead
  rwa [hshortest]

end Decimal

end JsonQuery
