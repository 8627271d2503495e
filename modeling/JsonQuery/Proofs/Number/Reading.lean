import JsonQuery.Number.Reading
import JsonQuery.Proofs.Number.Rounding
import Mathlib.Data.List.TakeWhile
import Mathlib.Tactic

/-!
Reading whole numbers. The decimal digits of a number are read as that number, and the decimal
text of an integer, with its sign, as the double-precision number nearest to it.
-/

namespace JsonQuery

section Digits

variable {n : ℕ}

theorem digitValue?_digitChar {d : Nat} (h : d < 10) : Text.digitValue? d.digitChar = some d := by
  have hall : ∀ d < 10, Text.digitValue? d.digitChar = some d := by decide
  exact hall d h

theorem natOfDigits_toDigits (n : Nat) : natOfDigits (Nat.toDigits 10 n) = n := by
  induction n using Nat.strong_induction_on with
  | _ n ih =>
      by_cases hn : n < 10
      · rw [Nat.toDigits_of_lt_base hn]
        simp [natOfDigits, digitValue?_digitChar hn]
      · have hdigit := digitValue?_digitChar (Nat.mod_lt n (by decide : 0 < 10))
        have hfront := ih (n / 10) (by omega)
        rw [Nat.toDigits_of_base_le (by decide) (Nat.not_lt.mp hn)]
        unfold natOfDigits at hfront ⊢
        rw [List.foldl_append, hfront, List.foldl_cons, hdigit, List.foldl_nil]
        dsimp only
        omega

/-- The decimal digits of a positive number do not begin with a zero. -/
theorem head?_toDigits_ne_zero (hn : 0 < n) :
    (Nat.toDigits 10 n).head? ≠ some '0' := by
  induction n using Nat.strong_induction_on with
  | _ n ih =>
      by_cases hsmall : n < 10
      · have hall : ∀ n < 10, 0 < n → [n.digitChar].head? ≠ some '0' := by decide
        rw [Nat.toDigits_of_lt_base hsmall]
        exact hall n hsmall hn
      · rw [Nat.toDigits_of_base_le (by decide) (Nat.not_lt.mp hsmall),
          List.head?_append_of_ne_nil _ Nat.toDigits_ne_nil]
        exact ih (n / 10) (by omega) (by omega)

theorem powerOfTen_pos (n : ℕ) : 0 < powerOfTen n := Nat.pow_pos (by decide)

theorem powerOfTen_add (m n : ℕ) : powerOfTen (m + n) = powerOfTen m * powerOfTen n :=
  Nat.pow_add 10 m n

theorem lt_decimalLength_iff (hn : 0 < n) (length : ℕ) :
    length < decimalLength n ↔ powerOfTen length ≤ n := by
  rcases Nat.eq_zero_or_pos length with rfl | hlength
  · exact iff_of_true Nat.length_toDigits_pos hn
  · have hshort : decimalLength n ≤ length ↔ n < powerOfTen length :=
      Nat.length_toDigits_le_iff (by decide) hlength
    exact Nat.not_le.symm.trans ((not_congr hshort).trans Nat.not_lt)

theorem toDigits_mul_ten (hn : 0 < n) :
    Nat.toDigits 10 (n * 10) = Nat.toDigits 10 n ++ ['0'] := by
  rw [Nat.toDigits_of_base_le (by decide) (by omega), Nat.mul_div_cancel n (by decide),
    Nat.mul_mod_left]
  rfl

theorem decimalLength_mul_powerOfTen (hn : 0 < n) (zeros : ℕ) :
    decimalLength (n * powerOfTen zeros) = decimalLength n + zeros := by
  induction zeros with
  | zero => rw [powerOfTen, Nat.pow_eq, Nat.pow_zero, Nat.mul_one, Nat.add_zero]
  | succ zeros ih =>
      have hpos : 0 < n * powerOfTen zeros := Nat.mul_pos hn (powerOfTen_pos zeros)
      have hten : powerOfTen 1 = 10 := rfl
      rw [powerOfTen_add, hten, ← Nat.mul_assoc, decimalLength, toDigits_mul_ten hpos,
        List.length_append, List.length_singleton, ← decimalLength, ih, Nat.add_assoc]

theorem natOfDigits_append_zeros (cs : List Char) (zeros : ℕ) :
    natOfDigits (cs ++ List.replicate zeros '0') = natOfDigits cs * powerOfTen zeros := by
  induction zeros with
  | zero =>
      rw [List.replicate_zero, List.append_nil]
      exact (Nat.mul_one _).symm
  | succ zeros ih =>
      have hzero : Text.digitValue? '0' = some 0 := rfl
      have hten : powerOfTen 1 = 10 := rfl
      rw [List.replicate_succ', ← List.append_assoc, powerOfTen_add, ← Nat.mul_assoc, ← ih]
      unfold natOfDigits
      rw [List.foldl_append, List.foldl_cons, hzero, List.foldl_nil, hten]
      dsimp only
      omega

theorem isDecimal_of_mem_toDigits {c : Char} (h : c ∈ Nat.toDigits 10 n) :
    Text.isDecimal c = true := by
  have hdigit := Nat.isDigit_of_mem_toDigits (by decide) (by decide) h
  simp only [Char.isDigit, Bool.and_eq_true, decide_eq_true_eq, UInt32.le_iff_toNat_le] at hdigit
  obtain ⟨hlow, hhigh⟩ : 48 ≤ c.toNat ∧ c.toNat ≤ 57 := hdigit
  have hrange : (decide (48 ≤ c.toNat) && decide (c.toNat ≤ 57)) = true := by
    rw [decide_eq_true hlow, decide_eq_true hhigh]
    rfl
  rw [Text.isDecimal, Text.digitValue?, if_pos (by omega), if_pos hrange]
  rfl

end Digits

namespace Binary64

section Decimals

variable {n : ℕ}

theorem le_decimal_of_long (h : 310 < decimalLength n) : 2 ^ 1024 ≤ n := by
  have hbound : 2 ^ 1024 ≤ 10 ^ 310 := by decide +kernel
  apply hbound.trans
  rw [← Nat.not_lt, ← Nat.length_toDigits_le_iff (by decide) (by decide)]
  exact Nat.not_le.mpr h

/-- A decimal number without fraction is the whole number, also where its length alone says that
it is too large. -/
theorem ofDecimal_whole (negative : Bool) (n : ℕ) :
    ofDecimal negative n 0 = ofRatio negative n 1 := by
  have hshort : ¬ (0 : ℤ) + decimalLength n < -330 := by omega
  unfold ofDecimal
  dsimp only
  rw [decide_eq_false hshort, Bool.or_false, zero_add]
  rw [if_pos le_rfl]
  split_ifs with hzero hlong
  · rw [eq_of_beq hzero, ofRatio_whole, wholeUnits_zero, if_pos (by positivity), Nat.zero_mul]
  · have hlarge := le_wholeUnits (exact_pow 1024) (le_decimal_of_long (by exact_mod_cast hlong))
    rw [ofRatio_whole, if_neg (Nat.not_lt.mpr hlarge)]
  · simp [powerOfTen]

end Decimals

section Reading

variable {cs : List Char} {c : Char}

theorem stripWhere_eq_of_forall {p : Char → Bool} (h : ∀ c ∈ cs, p c = false) :
    Text.stripWhere p cs = cs := by
  have hkept {ds : List Char} (hds : ∀ c ∈ ds, p c = false) : ds.dropWhile p = ds := by
    cases ds with
    | nil => rfl
    | cons d ds => rw [List.dropWhile_cons, hds d List.mem_cons_self, if_neg Bool.false_ne_true]
  rw [Text.stripWhere, hkept h, hkept (by simpa using h), List.reverse_reverse]

theorem joinDigits?_eq_some (before : Option Char) (h : ∀ c ∈ cs, (c == '_') = false) :
    joinDigits? before cs = some cs := by
  induction cs generalizing before with
  | nil => rfl
  | cons c cs ih =>
      unfold joinDigits?
      rw [h c List.mem_cons_self, if_neg Bool.false_ne_true,
        ih _ fun d hd => h d (List.mem_cons_of_mem _ hd)]
      rfl

theorem ofUnsigned?_digits (negative : Bool) (hne : cs ≠ [])
    (hdigits : ∀ c ∈ cs, Text.isDecimal c = true) :
    ofUnsigned? negative cs = some (ofRatio negative (natOfDigits cs) 1) := by
  have hwhole : cs.takeWhile Text.isDecimal = cs := List.takeWhile_eq_self_iff.mpr hdigits
  have hrest : cs.dropWhile Text.isDecimal = [] := List.dropWhile_eq_nil_iff.mpr hdigits
  unfold ofUnsigned?
  rw [hwhole, hrest]
  simp [hne, exponent?, ofDecimal_whole]

/-- Signs and digits are no blanks, join nothing and have no case. -/
theorem numericMarks_plain : ∀ c ∈ numericMarks,
    surrounds c = false ∧ (c == '_') = false ∧ c.toLower ≠ 'i' ∧ c.toLower ≠ 'n' := by decide

/-- Digits are no word. -/
theorem ofText?_of_splitSign {s : String} {negative : Bool} (hne : cs ≠ [])
    (hdigits : ∀ c ∈ cs, c ∈ numericMarks)
    (hsplit : splitSign (Text.stripWhere surrounds s.toList) = (negative, cs)) :
    ofText? s = ofUnsigned? negative cs := by
  have hword (word : String) {first : Char} {rest : List Char}
      (hchars : word.toList = first :: rest) (hfirst : first = 'i' ∨ first = 'n') :
      (String.ofList (cs.map Char.toLower) == word) = false := by
    obtain ⟨c, ds, rfl⟩ := List.exists_cons_of_ne_nil hne
    obtain ⟨-, -, hi, hn⟩ := numericMarks_plain c (hdigits c List.mem_cons_self)
    rw [beq_eq_false_iff_ne]
    intro heq
    rw [← heq, String.toList_ofList, List.map_cons] at hchars
    rcases hfirst with rfl | rfl
    · exact hi (List.cons.inj hchars).1
    · exact hn (List.cons.inj hchars).1
  have hjoin : joinDigits? none cs = some cs :=
    joinDigits?_eq_some none fun c hc => (numericMarks_plain c (hdigits c hc)).2.1
  unfold ofText?
  rw [hsplit]
  dsimp only
  rw [hword "inf" rfl (.inl rfl), hword "infinity" rfl (.inl rfl), hword "nan" rfl (.inr rfl),
    hjoin]
  rfl

theorem splitSign_of_isDigit (h : c.isDigit = true) : splitSign (c :: cs) = (false, c :: cs) := by
  unfold splitSign
  split
  · rename_i hsign
    rw [(List.cons.inj hsign).1] at h
    exact absurd h (by decide)
  · rename_i hsign
    rw [(List.cons.inj hsign).1] at h
    exact absurd h (by decide)
  · rfl

/-- The decimal text of an integer is read as the double-precision number nearest to it. -/
theorem ofText?_toString (n : ℤ) : ofText? (toString n) = some (ofRatio (n < 0) n.natAbs 1) := by
  have hdigits (k : ℕ) : ∀ c ∈ Nat.toDigits 10 k, c.isDigit = true := fun c hc =>
    Nat.isDigit_of_mem_toDigits (by decide) (by decide) hc
  have hmarks (k : ℕ) : ∀ c ∈ Nat.toDigits 10 k, c ∈ numericMarks := fun c hc =>
    mem_numericMarks_of_isDigit (hdigits k c hc)
  have hunsigned (negative : Bool) (k : ℕ) :
      ofUnsigned? negative (Nat.toDigits 10 k) = some (ofRatio negative k 1) := by
    rw [ofUnsigned?_digits negative Nat.toDigits_ne_nil fun c hc => isDecimal_of_mem_toDigits hc,
      natOfDigits_toDigits]
  cases n with
  | ofNat k =>
      have hchars : (toString (Int.ofNat k)).toList = Nat.toDigits 10 k := Nat.toList_repr
      have hsign : decide (Int.ofNat k < 0) = false :=
        decide_eq_false (Int.not_lt.mpr (Int.natCast_nonneg k))
      rw [ofText?_of_splitSign Nat.toDigits_ne_nil (hmarks k), hunsigned false k, hsign,
        Int.natAbs_ofNat']
      · rw [hchars, stripWhere_eq_of_forall fun c hc => (numericMarks_plain c (hmarks k c hc)).1]
        obtain ⟨first, rest, hcons⟩ := List.exists_cons_of_ne_nil (@Nat.toDigits_ne_nil k 10)
        rw [hcons]
        exact splitSign_of_isDigit (hdigits k first (by simp [hcons]))
  | negSucc k =>
      have hchars : (toString (Int.negSucc k)).toList = '-' :: Nat.toDigits 10 (k + 1) := by
        change ("-" ++ Nat.repr (k + 1)).toList = _
        rw [String.toList_append, Nat.toList_repr]
        rfl
      have hplain : ∀ c ∈ '-' :: Nat.toDigits 10 (k + 1), surrounds c = false := by
        intro c hc
        rcases List.mem_cons.mp hc with rfl | hc
        · decide
        · exact (numericMarks_plain c (hmarks _ c hc)).1
      rw [ofText?_of_splitSign Nat.toDigits_ne_nil (hmarks (k + 1)), hunsigned true (k + 1),
        decide_eq_true (Int.negSucc_lt_zero k), Int.natAbs_negSucc]
      · rw [hchars, stripWhere_eq_of_forall hplain]
        rfl

end Reading

end Binary64

end JsonQuery
