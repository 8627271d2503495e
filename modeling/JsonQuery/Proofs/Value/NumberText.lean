import JsonQuery.Proofs.Value.Order
import Mathlib.Tactic

/-!
The texts of numbers against their places. Numbers with one place have one text, whatever they
are kept as. The text of a number below the upper end of the line begins with a sign or a digit,
so it comes before every text that begins with a letter.
-/

namespace JsonQuery

theorem powerOfTwo_pos (n : ℕ) : 0 < powerOfTwo n := Nat.pow_pos Nat.two_pos

/-- What the text of a finite number can begin with. -/
def numericMarks : List Char := "-0123456789".toList

/-- The characters begin with a sign or a digit. -/
def BeginsNumeric (cs : List Char) : Prop := ∃ c rest, cs = c :: rest ∧ c ∈ numericMarks

theorem mem_numericMarks_of_isDigit {c : Char} (h : c.isDigit = true) : c ∈ numericMarks := by
  obtain ⟨hlow, hhigh⟩ := Char.isDigit_iff_toNat.mp h
  change 48 ≤ c.toNat at hlow
  change c.toNat ≤ 57 at hhigh
  rw [← Char.ofNat_toNat c]
  interval_cases c.toNat <;> decide

/-- Signs and digits have no case and come before the letter `f`. -/
theorem numericMarks_facts :
    ∀ c ∈ numericMarks, Text.foldChar c = [c] ∧ Text.codeOf c < Text.codeOf 'f' := by decide

theorem beginsNumeric_of_digits {cs : List Char} (hne : cs ≠ [])
    (hdigits : ∀ c ∈ cs, c.isDigit = true) : BeginsNumeric cs := by
  obtain ⟨c, rest, rfl⟩ := List.exists_cons_of_ne_nil hne
  exact ⟨c, rest, rfl, mem_numericMarks_of_isDigit (hdigits c List.mem_cons_self)⟩

section Digits

theorem beginsNumeric_toString (n : Int) : BeginsNumeric (toString n).toList := by
  have hdigits (k : Nat) : BeginsNumeric (Nat.toDigits 10 k) :=
    beginsNumeric_of_digits Nat.toDigits_ne_nil fun c hc =>
      Nat.isDigit_of_mem_toDigits (by decide) (by decide) hc
  cases n with
  | ofNat k =>
      change BeginsNumeric (Nat.repr k).toList
      rw [Nat.repr, String.toList_ofList]
      exact hdigits k
  | negSucc k =>
      change BeginsNumeric ("-" ++ Nat.repr (k + 1)).toList
      exact ⟨'-', (Nat.repr (k + 1)).toList, String.toList_append, by decide⟩

/-- A decimal number has digits, and they are digits. -/
def Decimal.Numeric (d : Decimal) : Prop := d.digits ≠ [] ∧ ∀ c ∈ d.digits, c.isDigit = true

theorem Decimal.zero_numeric : zero.Numeric := by
  rw [Numeric]
  decide

theorem Decimal.ofScaled_numeric (value : Nat) (power : Int) : (ofScaled value power).Numeric := by
  rw [Numeric, ofScaled]
  dsimp only
  split
  · decide
  · rename_i hfull
    constructor
    · intro hnone
      exact hfull (List.isEmpty_iff.mpr hnone)
    · intro c hc
      have hmem := (List.dropWhile_sublist _).subset (List.mem_reverse.mp hc)
      exact Nat.isDigit_of_mem_toDigits (by decide) (by decide) (List.mem_reverse.mp hmem)

theorem Decimal.shortest_numeric (units : Nat) : (shortest units).Numeric := by
  unfold shortest
  dsimp only
  cases hfound : (List.range 17).findSome? fun (extra : Nat) =>
      (neighbour? units (leadingPower units - (extra : Int))).map
        (ofScaled · (leadingPower units - (extra : Int))) with
  | none => exact zero_numeric
  | some d =>
      obtain ⟨extra, -, hextra⟩ := List.exists_of_findSome?_eq_some hfound
      obtain ⟨value, -, rfl⟩ := Option.map_eq_some_iff.mp hextra
      exact ofScaled_numeric _ _

theorem Decimal.Numeric.write (layout : DecimalLayout) {d : Decimal} (h : d.Numeric) :
    BeginsNumeric (layout.write d) := by
  obtain ⟨c, rest, hdigits, hc⟩ := beginsNumeric_of_digits h.1 h.2
  unfold DecimalLayout.write
  split
  · unfold DecimalLayout.positional
    dsimp only
    split
    · exact ⟨'0', _, rfl, by decide⟩
    · split
      · rw [hdigits]
        exact ⟨c, _, rfl, hc⟩
      · rw [hdigits, List.take_succ_cons]
        exact ⟨c, _, rfl, hc⟩
  · unfold DecimalLayout.withExponent
    rw [hdigits]
    cases rest with
    | nil => exact ⟨c, _, rfl, hc⟩
    | cons second rest => exact ⟨c, _, rfl, hc⟩

/-- A decimal number is written with digits, a point and an exponent. -/
theorem Decimal.Numeric.forall_mem_write (layout : DecimalLayout) {d : Decimal} (h : d.Numeric)
    {p : Char → Prop} (hdigit : ∀ c, c.isDigit = true → p c)
    (hmark : ∀ c ∈ ['.', 'e', '+', '-'], p c) : ∀ c ∈ layout.write d, p c := by
  have hdigits : ∀ c ∈ d.digits, p c := fun c hc => hdigit c (h.2 c hc)
  have hzeros (k : Nat) : ∀ c ∈ List.replicate k '0', p c := fun c hc => by
    rw [List.eq_of_mem_replicate hc]
    exact hdigit '0' rfl
  have hpoint : p '.' := hmark '.' (by decide)
  unfold DecimalLayout.write
  split
  · unfold DecimalLayout.positional
    dsimp only
    split
    · simp only [List.forall_mem_cons, List.forall_mem_append]
      exact ⟨hdigit '0' rfl, hpoint, hzeros _, hdigits⟩
    · split
      · simp only [List.forall_mem_append]
        refine ⟨⟨hdigits, hzeros _⟩, ?_⟩
        split
        · simp only [List.forall_mem_cons]
          exact ⟨hpoint, hdigit '0' rfl, fun _ hc => nomatch hc⟩
        · exact fun _ hc => nomatch hc
      · simp only [List.forall_mem_append, List.forall_mem_cons]
        exact ⟨fun c hc => hdigits c (List.mem_of_mem_take hc), hpoint,
          fun c hc => hdigits c (List.mem_of_mem_drop hc)⟩
  · have hexponent (k : Nat) : ∀ c ∈ Nat.toDigits 10 k, p c := fun c hc =>
      hdigit c (Nat.isDigit_of_mem_toDigits (by decide) (by decide) hc)
    unfold DecimalLayout.withExponent
    simp only [List.forall_mem_cons, List.forall_mem_append]
    refine ⟨?_, hmark 'e' (by decide), ?_, hzeros _, hexponent _⟩
    · cases hd : d.digits with
      | nil => exact fun _ hc => nomatch hc
      | cons first rest =>
          rw [hd, List.forall_mem_cons] at hdigits
          cases rest with
          | nil => exact List.forall_mem_cons.mpr ⟨hdigits.1, fun _ hc => nomatch hc⟩
          | cons second rest =>
              exact List.forall_mem_cons.mpr
                ⟨hdigits.1, List.forall_mem_cons.mpr ⟨hpoint, hdigits.2⟩⟩
    · split
      · exact hmark '-' (by decide)
      · exact hmark '+' (by decide)

/-- A finite number is written as a decimal number behind its sign. -/
theorem exists_toList_dataText (negative : Bool) (units : Nat) :
    ∃ d : Decimal, d.Numeric ∧ (Binary64.finite negative units).dataText.toList =
      (if negative then ['-'] else []) ++ DecimalLayout.data.write d := by
  refine ⟨_, ?_, by rw [Binary64.dataText, DecimalLayout.text, String.toList_ofList]⟩
  split
  · exact Decimal.zero_numeric
  · exact Decimal.shortest_numeric units

theorem beginsNumeric_dataText (negative : Bool) (units : Nat) :
    BeginsNumeric (Binary64.finite negative units).dataText.toList := by
  obtain ⟨d, hd, htext⟩ := exists_toList_dataText negative units
  rw [htext]
  cases negative with
  | true => exact ⟨'-', _, rfl, by decide⟩
  | false => exact hd.write _

end Digits

namespace Value

/-- The text of a number below the upper end of the line begins with a sign or a digit. -/
theorem beginsNumeric_numberText {n : Number} {p : Place} (hp : n.place? = some p)
    (hhigh : p ≠ .high) : BeginsNumeric (numberText n).toList := by
  cases n with
  | int n => exact beginsNumeric_toString n
  | float x =>
      rw [numberText]
      split
      · exact beginsNumeric_toString _
      · cases x with
        | nan | spelledNan => cases hp
        | infinite negative =>
            cases negative with
            | false => exact absurd (Option.some.inj hp).symm hhigh
            | true => exact ⟨'-', _, rfl, by decide⟩
        | finite negative units => exact beginsNumeric_dataText negative units

/-- A text that begins with a sign or a digit comes before one that begins with `f` as soon as
case is left out. -/
theorem collation_lt_of_beginsNumeric {s t : String} {rest : List Char}
    (hs : BeginsNumeric s.toList) (ht : (Text.fold t).toList = 'f' :: rest) :
    collation s < collation t := by
  obtain ⟨c, others, hchars, hc⟩ := hs
  obtain ⟨hfold, hbefore⟩ := numericMarks_facts c hc
  refine Prod.Lex.toLex_lt_toLex.mpr (.inl ?_)
  rw [Text.fold, String.toList_ofList, hchars, ht, List.flatMap_cons, hfold]
  exact List.cons_lt_cons_iff.mpr (.inl hbefore)

/-- The text of the numbers at a place. -/
def placeText : Place → String
  | .low => "-inf"
  | .at units =>
      if units % Binary64.unitsPerOne = 0 then toString (units / Binary64.unitsPerOne)
      else (Binary64.finite (units < 0) units.natAbs).dataText
  | .high => "inf"

theorem unitsPerOne_pos : 0 < Binary64.unitsPerOne := powerOfTwo_pos 1074

theorem signedUnits_emod (negative : Bool) (units : ℕ) :
    Binary64.signedUnits negative units % Binary64.unitsPerOne = 0 ↔
      units % Binary64.unitsPerOne = 0 := by
  rw [← Int.dvd_iff_emod_eq_zero, ← Nat.dvd_iff_mod_eq_zero, ← Int.natCast_dvd_natCast]
  cases negative with
  | false => rfl
  | true => exact Int.dvd_neg

theorem signedUnits_ediv (negative : Bool) {units one : ℕ} (h : one ∣ units) :
    Binary64.signedUnits negative units / one = Binary64.signedUnits negative (units / one) := by
  cases negative with
  | false => exact (Int.natCast_div units one).symm
  | true =>
      change -(units : ℤ) / one = -((units / one : ℕ) : ℤ)
      rw [Int.neg_ediv_of_dvd (Int.natCast_dvd_natCast.mpr h), Int.natCast_div]

theorem natAbs_signedUnits (negative : Bool) (units : ℕ) :
    (Binary64.signedUnits negative units).natAbs = units := by
  cases negative <;> simp [Binary64.signedUnits]

theorem sign_of_signedUnits (negative : Bool) {units : ℕ} (h : units ≠ 0) :
    decide (Binary64.signedUnits negative units < 0) = negative := by
  cases negative with
  | false => simp [Binary64.signedUnits]
  | true =>
      simp [Binary64.signedUnits]
      omega

/-- The text of a number is decided by its place: an integer and the fraction that equals it are
written alike. -/
theorem numberText_eq_placeText {n : Number} {p : Place} (h : n.place? = some p) :
    numberText n = placeText p := by
  have hone : (Binary64.unitsPerOne : ℤ) ≠ 0 := by exact_mod_cast unitsPerOne_pos.ne'
  cases n with
  | int n =>
      obtain rfl : Place.at (n * Binary64.unitsPerOne) = p := Option.some.inj h
      rw [placeText, if_pos (Int.mul_emod_left n _), Int.mul_ediv_cancel n hone, numberText]
  | float x =>
      cases x with
      | nan | spelledNan => cases h
      | infinite negative => cases negative <;> cases h <;> rfl
      | finite negative units =>
          obtain rfl : Place.at (Binary64.signedUnits negative units) = p := Option.some.inj h
          rw [placeText, numberText, Binary64.toInt?]
          by_cases hwhole : units % Binary64.unitsPerOne = 0
          · rw [if_pos (beq_iff_eq.mpr hwhole), if_pos ((signedUnits_emod _ _).mpr hwhole)]
            change toString _ = toString _
            rw [signedUnits_ediv negative (Nat.dvd_of_mod_eq_zero hwhole)]
          · have hpos : units ≠ 0 := by
              rintro rfl
              exact hwhole (Nat.zero_mod _)
            rw [if_neg (by simpa using hwhole), if_neg (mt (signedUnits_emod _ _).mp hwhole),
              sign_of_signedUnits negative hpos, natAbs_signedUnits]

end Value

end JsonQuery
