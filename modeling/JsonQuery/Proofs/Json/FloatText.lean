import JsonQuery.Proofs.Json.OneLine
import JsonQuery.Proofs.Number.Shortest
import JsonQuery.Value.Text
import Mathlib.Tactic

/-!
Floats through their text. The text of a finite number has its fewest digits, with the point or an
exponent where the layout wants them, and zeros that count for nothing. However they are laid out,
the same decimal number is read from them, and the float is what that number is rounded to.
-/

namespace JsonQuery.Json

open Binary64

variable {whole decimals tail start : List Char} {negative : Bool} {power : Option Int}

section Parts

/-- A point and the digits behind it, if there are any. -/
def pointed (decimals : List Char) : List Char :=
  if decimals.isEmpty then [] else '.' :: decimals

theorem pointed_of_ne_nil (h : decimals ≠ []) : pointed decimals = '.' :: decimals :=
  if_neg (by simpa using h)

theorem fraction_pointed (hdecimals : ∀ c ∈ decimals, Text.isAsciiDigit c = true)
    (htail : ∀ c ∈ tail.head?, Text.isAsciiDigit c = false ∧ c ≠ '.') :
    fraction (pointed decimals ++ tail) = (decimals, tail) := by
  cases decimals with
  | nil =>
      cases tail with
      | nil => rfl
      | cons c tail =>
          have hpoint := (htail c rfl).2
          rw [pointed, List.isEmpty_nil, if_pos rfl, List.nil_append, fraction]
          exact fun _ hc => hpoint (List.cons_eq_cons.mp hc).1
  | cons d decimals =>
      have hdigits : (d :: decimals ++ tail).takeWhile Text.isAsciiDigit = d :: decimals := by
        rw [takeWhile_append_of_head fun c hc => (htail c hc).1]
        exact List.takeWhile_eq_self_iff.mpr hdecimals
      rw [pointed, List.isEmpty_cons, if_neg Bool.false_ne_true, List.cons_append, fraction,
        hdigits, List.isEmpty_cons, if_neg Bool.false_ne_true, List.drop_left]

/-- A number with a fraction or an exponent is read part by part. -/
theorem unsignedNumber_of_parts (hwhole : wholeDigits whole = whole) (hne : whole ≠ [])
    (hdecimals : ∀ c ∈ decimals, Text.isAsciiDigit c = true)
    (htail : ∀ c ∈ tail.head?, Text.isAsciiDigit c = false ∧ c ≠ '.')
    (hpower : exponent tail = (power, [])) (hfloat : decimals ≠ [] ∨ power ≠ none) :
    unsignedNumber start negative (whole ++ (pointed decimals ++ tail)) =
      .ok (.ofFloat (ofDecimal negative (natOfDigits (whole ++ decimals))
        (power.getD 0 - decimals.length)), []) := by
  have hbehind : ∀ c ∈ (pointed decimals ++ tail).head?, Text.isAsciiDigit c = false := by
    cases decimals with
    | nil => exact fun c hc => (htail c hc).1
    | cons d decimals =>
        intro c hc
        rw [← Option.some.inj hc]
        rfl
  have hnumeral : numeral negative whole decimals power =
      .ok (.ofFloat (ofDecimal negative (natOfDigits (whole ++ decimals))
        (power.getD 0 - decimals.length))) := by
    rw [numeral, if_neg]
    rcases hfloat with hsome | hsome
    · simp [hsome]
    · simp [Option.isNone_iff_eq_none, hsome]
  rw [unsignedNumber_eq, wholeDigits_append_of_head hbehind, hwhole, if_neg (by simpa using hne),
    List.drop_left, fraction_pointed hdecimals htail]
  dsimp only
  rw [hpower, hnumeral]
  rfl

theorem isAsciiDigit_of_mem_zeros {zeros : ℕ} {c : Char} (hc : c ∈ List.replicate zeros '0') :
    Text.isAsciiDigit c = true := by
  rw [List.eq_of_mem_replicate hc]
  rfl

theorem natOfDigits_zeros_append (zeros : ℕ) (cs : List Char) :
    natOfDigits (List.replicate zeros '0' ++ cs) = natOfDigits cs := by
  induction zeros with
  | zero => rfl
  | succ zeros ih => exact ih

/-- An exponent is read with its sign, and zeros before it do not count. -/
theorem exponent_signed (zeros : ℕ) (power : ℤ) :
    exponent ('e' :: (if power < 0 then '-' else '+') ::
      (List.replicate zeros '0' ++ Nat.toDigits 10 power.natAbs)) = (some power, []) := by
  have hdigits : ∀ c ∈ List.replicate zeros '0' ++ Nat.toDigits 10 power.natAbs,
      Text.isAsciiDigit c = true :=
    List.forall_mem_append.mpr
      ⟨fun _ => isAsciiDigit_of_mem_zeros, fun _ => isAsciiDigit_of_mem_toDigits⟩
  have hne : List.replicate zeros '0' ++ Nat.toDigits 10 power.natAbs ≠ [] :=
    List.append_ne_nil_of_right_ne_nil _ Nat.toDigits_ne_nil
  have hvalue := natOfDigits_zeros_append zeros (Nat.toDigits 10 power.natAbs)
  rw [natOfDigits_toDigits] at hvalue
  generalize List.replicate zeros '0' ++ Nat.toDigits 10 power.natAbs = digits at *
  have hsplit : splitSign ((if power < 0 then '-' else '+') :: digits) =
      (decide (power < 0), digits) := by
    split
    · rename_i hsign
      rw [decide_eq_true hsign]
      rfl
    · rename_i hsign
      rw [decide_eq_false hsign]
      rfl
  rw [exponent_cons, hsplit]
  dsimp only
  rw [List.takeWhile_eq_self_iff.mpr hdigits, hvalue, List.drop_length,
    if_pos (by decide), if_neg (by simpa using hne)]
  congr 2
  split_ifs with hsign
  all_goals
    simp only [decide_eq_true_eq] at hsign
    omega

end Parts

section Layout

variable {d : Decimal}

theorem wholeDigits_of_digits (hdigits : ∀ c ∈ whole, Text.isAsciiDigit c = true)
    (hhead : whole.head? ≠ some '0') : wholeDigits whole = whole := by
  cases whole with
  | nil => rfl
  | cons c cs =>
      have hzero : c ≠ '0' := fun hc => hhead (congrArg some hc)
      rw [wholeDigits_of_head hzero, List.takeWhile_eq_self_iff.mpr hdigits]

/-- A text that is read as a decimal number, with some zeros behind its digits. -/
def Spells (text : List Char) (d : Decimal) : Prop :=
  ∀ (start : List Char) (negative : Bool), ∃ zeros : ℕ, unsignedNumber start negative text =
    .ok (.ofFloat (ofDecimal negative (natOfDigits d.digits * powerOfTen zeros)
      (d.leading + 1 - d.digits.length - zeros)), [])

/-- The parts of a text spell a number if their digits are its digits, with zeros behind them that
the exponent makes up for. -/
theorem spells_of_parts (zeros : ℕ) (hwhole : wholeDigits whole = whole) (hne : whole ≠ [])
    (hdecimals : ∀ c ∈ decimals, Text.isAsciiDigit c = true)
    (htail : ∀ c ∈ tail.head?, Text.isAsciiDigit c = false ∧ c ≠ '.')
    (hpower : exponent tail = (power, [])) (hfloat : decimals ≠ [] ∨ power ≠ none)
    (hvalue : natOfDigits (whole ++ decimals) = natOfDigits d.digits * powerOfTen zeros)
    (hexponent : power.getD 0 - decimals.length = d.leading + 1 - d.digits.length - zeros) :
    Spells (whole ++ (pointed decimals ++ tail)) d := by
  intro start negative
  refine ⟨zeros, ?_⟩
  rw [unsignedNumber_of_parts hwhole hne hdecimals htail hpower hfloat, hvalue, hexponent]

/-- Whole digits and decimals without an exponent. -/
theorem spells_pointed (zeros : ℕ) (hwhole : wholeDigits whole = whole) (hne : whole ≠ [])
    (hdecimals : ∀ c ∈ decimals, Text.isAsciiDigit c = true) (hsome : decimals ≠ [])
    (hvalue : natOfDigits (whole ++ decimals) = natOfDigits d.digits * powerOfTen zeros)
    (hexponent : -(decimals.length : ℤ) = d.leading + 1 - d.digits.length - zeros) :
    Spells (whole ++ '.' :: decimals) d := by
  have hspells := @spells_of_parts whole decimals [] none d zeros hwhole hne hdecimals nofun rfl
    (.inl hsome) hvalue (by rwa [Option.getD_none, Int.zero_sub])
  rwa [pointed_of_ne_nil hsome, List.append_nil] at hspells

theorem isAsciiDigit_digits (h : d.Numeric) : ∀ c ∈ d.digits, Text.isAsciiDigit c = true :=
  fun c hc => isAsciiDigit_of_isDigit (h.2 c hc)

/-- A number below one has zeros between the point and its digits. -/
theorem spells_below_one (h : d.Numeric) (hbelow : d.leading < 0) :
    Spells ('0' :: '.' :: (List.replicate (-d.leading - 1).toNat '0' ++ d.digits)) d := by
  have hdigits : ∀ c ∈ List.replicate (-d.leading - 1).toNat '0' ++ d.digits,
      Text.isAsciiDigit c = true :=
    List.forall_mem_append.mpr ⟨fun _ => isAsciiDigit_of_mem_zeros, isAsciiDigit_digits h⟩
  refine @spells_pointed ['0'] _ d 0 rfl (List.cons_ne_nil _ _) hdigits
    (List.append_ne_nil_of_right_ne_nil _ h.1) ?_ ?_
  · have hvalue := natOfDigits_zeros_append ((-d.leading - 1).toNat + 1) d.digits
    exact hvalue.trans (Nat.mul_one _).symm
  · rw [List.length_append, List.length_replicate]
    omega

/-- A whole number may have zeros behind its digits, and one more behind the point. -/
theorem spells_whole (h : d.Numeric) (hhead : d.digits.head? ≠ some '0') (hleading : 0 ≤ d.leading)
    (hshort : d.digits.length ≤ d.leading.toNat + 1) :
    Spells (d.digits ++ List.replicate (d.leading.toNat + 1 - d.digits.length) '0' ++ ['.', '0'])
      d := by
  obtain ⟨zeros, hzeros⟩ : ∃ zeros, d.leading.toNat + 1 - d.digits.length = zeros := ⟨_, rfl⟩
  rw [hzeros]
  have hwhole : wholeDigits (d.digits ++ List.replicate zeros '0') =
      d.digits ++ List.replicate zeros '0' := by
    apply wholeDigits_of_digits
    · exact List.forall_mem_append.mpr ⟨isAsciiDigit_digits h, fun _ => isAsciiDigit_of_mem_zeros⟩
    · rwa [List.head?_append_of_ne_nil _ h.1]
  refine spells_pointed (zeros + 1) hwhole (List.append_ne_nil_of_left_ne_nil h.1 _) (by decide)
    (List.cons_ne_nil _ _) ?_ ?_
  · rw [List.append_assoc, ← List.replicate_succ', natOfDigits_append_zeros]
  · rw [List.length_singleton]
    omega

/-- A number with a fraction has the point among its digits. -/
theorem spells_fraction (h : d.Numeric) (hhead : d.digits.head? ≠ some '0')
    (hleading : 0 ≤ d.leading) (hlong : d.leading.toNat + 1 < d.digits.length) :
    Spells (d.digits.take (d.leading.toNat + 1) ++ '.' :: d.digits.drop (d.leading.toNat + 1))
      d := by
  have hwhole : wholeDigits (d.digits.take (d.leading.toNat + 1)) =
      d.digits.take (d.leading.toNat + 1) := by
    refine wholeDigits_of_digits (fun c hc => isAsciiDigit_digits h c (List.mem_of_mem_take hc)) ?_
    rwa [List.head?_take, if_neg (Nat.succ_ne_zero _)]
  have htake : d.digits.take (d.leading.toNat + 1) ≠ [] := by
    rw [ne_eq, List.take_eq_nil_iff]
    exact not_or.mpr ⟨Nat.succ_ne_zero _, h.1⟩
  have hdrop : d.digits.drop (d.leading.toNat + 1) ≠ [] := by
    rw [ne_eq, List.drop_eq_nil_iff]
    exact Nat.not_le.mpr hlong
  refine spells_pointed 0 hwhole htake
    (fun c hc => isAsciiDigit_digits h c (List.mem_of_mem_drop hc)) hdrop ?_ ?_
  · rw [List.take_append_drop]
    exact (Nat.mul_one _).symm
  · rw [List.length_drop]
    omega

/-- With an exponent the point stands behind the first digit, if there are more. -/
theorem spells_withExponent (h : d.Numeric) (hhead : d.digits.head? ≠ some '0') :
    Spells (DecimalLayout.data.withExponent d) d := by
  obtain ⟨digits, leading⟩ := d
  have hdigits := isAsciiDigit_digits h
  obtain ⟨first, rest, rfl⟩ := List.exists_cons_of_ne_nil h.1
  rw [List.forall_mem_cons] at hdigits
  have hlayout : DecimalLayout.data.withExponent ⟨first :: rest, leading⟩ =
      [first] ++ (pointed rest ++ 'e' :: (if leading < 0 then '-' else '+') ::
        (List.replicate (2 - (Nat.toDigits 10 leading.natAbs).length) '0' ++
          Nat.toDigits 10 leading.natAbs)) := by
    cases rest with
    | nil => rfl
    | cons second rest => rfl
  rw [hlayout]
  refine spells_of_parts 0
    (wholeDigits_of_digits (List.forall_mem_singleton.mpr hdigits.1) hhead) (List.cons_ne_nil _ _)
    hdigits.2 (fun c hc => by rw [← Option.some.inj hc]; decide)
    (exponent_signed (2 - (Nat.toDigits 10 leading.natAbs).length) leading) (.inr nofun) ?_ ?_
  · exact (Nat.mul_one _).symm
  · rw [Option.getD_some, List.length_cons]
    dsimp only
    omega

/-- However the digits of a number are laid out, the number they stand for is read from them. -/
theorem spells_write (h : d.Numeric) (hhead : d.digits.head? ≠ some '0') :
    Spells (DecimalLayout.data.write d) d := by
  unfold DecimalLayout.write
  split
  · unfold DecimalLayout.positional
    dsimp only
    split
    · rename_i hbelow
      exact spells_below_one h hbelow
    · rename_i hleading
      split
      · rename_i hshort
        exact spells_whole h hhead (Int.not_lt.mp hleading) hshort
      · rename_i hlong
        exact spells_fraction h hhead (Int.not_lt.mp hleading) (Nat.not_le.mp hlong)
  · exact spells_withExponent h hhead

end Layout

theorem unsignedNumber_finite {units : ℕ} (h : IsMagnitude units) (start : List Char)
    (negative : Bool) :
    unsignedNumber start negative
        (DecimalLayout.data.write (if units == 0 then Decimal.zero else Decimal.shortest units)) =
      .ok (.ofFloat (.finite negative units), []) := by
  rcases Nat.eq_zero_or_pos units with rfl | hpos
  · rfl
  · rw [if_neg (by simpa using hpos.ne')]
    obtain ⟨zeros, hread⟩ := spells_write (Decimal.shortest_numeric units)
      (Decimal.head?_shortest h hpos) start negative
    rw [hread, Decimal.ofDecimal_shortest h hpos]

/-- Every double is read back from its text, unless it is no number. -/
theorem readsBack_of_isDouble {x : Binary64} (h : x.IsDouble) (hx : x ≠ .nan) : ReadsBack x := by
  cases h with
  | nan => exact absurd rfl hx
  | spelledNan => rfl
  | infinite negative => cases negative <;> rfl
  | @finite negative units h =>
      have htext : (floatText (.finite negative units)).toList =
          (if negative then ['-'] else []) ++ DecimalLayout.data.write
            (if units == 0 then Decimal.zero else Decimal.shortest units) :=
        String.toList_ofList
      have hsolid : ∀ c ∈ (floatText (.finite negative units)).toList, isSpace c = false :=
        dataText_solid negative units
      have hcs : BeginsNumeric (floatText (.finite negative units)).toList :=
        beginsNumeric_dataText negative units
      have hread := fun start => unsignedNumber_finite h start negative
      obtain ⟨c, ds, hwrite, hc⟩ := exists_digit_of_unsignedNumber (hread [])
      rw [hwrite] at htext hread
      have hvalue (fuel : ℕ) : value (fuel + 1) (floatText (.finite negative units)).toList =
          .ok (.ofFloat (.finite negative units), []) := by
        rw [value_of_beginsNumeric fuel hcs, htext, scalar_signed hc, hread]
      apply read_eq_ok_iff.mpr
      apply readChars_of_value
      · obtain ⟨first, rest, hfirst, hmem⟩ := hcs
        have hall : ∀ c ∈ numericMarks, c ≠ '\uFEFF' := by decide
        rw [hfirst]
        exact fun hmark => hall first hmem (Option.some.inj hmark)
      · rw [skipSpace_of_solid hsolid]
        exact hvalue _

/-- What is read as a float is a double. -/
theorem isDouble_of_unsignedNumber {cs rest : List Char} {x : Binary64}
    (h : unsignedNumber start negative cs = .ok (.ofFloat x, rest)) : x.IsDouble := by
  obtain ⟨-, decimals, power, -, -, hnumeral⟩ := unsignedNumber_eq_ok h
  rw [numeral] at hnumeral
  split at hnumeral
  · split at hnumeral
    · cases hnumeral
    · cases hnumeral
  · cases hnumeral
    exact isDouble_ofDecimal _ _ _

/-- The floats that are read back from their texts are the doubles, but for what is no number and
not spelled so. -/
theorem readsBack_iff {x : Binary64} : ReadsBack x ↔ x.IsDouble ∧ x ≠ .nan := by
  constructor
  · intro h
    have hscalar := h.scalar_append delimited_nil
    cases x with
    | nan =>
        have hword : read "NaN" = .ok (.ofFloat .spelledNan) := rfl
        cases hword.symm.trans h
    | spelledNan => exact ⟨.spelledNan, nofun⟩
    | infinite negative => exact ⟨.infinite negative, nofun⟩
    | finite negative units =>
        rw [List.append_nil] at hscalar
        obtain ⟨_, _, _, -, -, hread⟩ :=
          exists_unsignedNumber (beginsNumeric_dataText negative units) hscalar nofun
        exact ⟨isDouble_of_unsignedNumber hread, nofun⟩
  · exact fun h => readsBack_of_isDouble h.1 h.2

end JsonQuery.Json

namespace JsonQuery

open Json

mutual

/-- Whether every float in a value is one that double precision has. -/
def Value.doublesOnly : Value → Bool
  | .number (.float x) => decide x.IsDouble
  | .array items => allDoubles items
  | .object members => memberDoubles members
  | .null | .bool _ | .string _ | .number (.int _) => true

def allDoubles : List Value → Bool
  | [] => true
  | item :: items => item.doublesOnly && allDoubles items

def memberDoubles : List (String × Value) → Bool
  | [] => true
  | (_, item) :: members => item.doublesOnly && memberDoubles members

end

theorem memberDoubles_iff {members : List (String × Value)} :
    memberDoubles members = true ↔ ∀ m ∈ members, m.2.doublesOnly = true := by
  induction members with
  | nil => exact iff_of_true rfl (List.forall_mem_nil _)
  | cons m members ih => rw [memberDoubles, Bool.and_eq_true, ih, List.forall_mem_cons]

theorem memberIntegersFit_iff {members : List (String × Value)} :
    Value.memberIntegersFit members = true ↔ ∀ m ∈ members, m.2.integersFit = true := by
  induction members with
  | nil => exact iff_of_true rfl (List.forall_mem_nil _)
  | cons m members ih =>
      rw [Value.memberIntegersFit, Bool.and_eq_true, ih, List.forall_mem_cons]

theorem Binary64.IsDouble.spelled {x : Binary64} (h : x.IsDouble) : x.spelled.IsDouble := by
  cases h with
  | nan | spelledNan => exact .spelledNan
  | infinite negative => exact .infinite negative
  | finite negative h => exact .finite negative h

mutual

/-- What has short integers and doubles only can be read. -/
theorem Value.isLegible_of_doubles (v : Value) :
    v.integersFit = true → v.doublesOnly = true → v.IsLegible := by
  match v with
  | .null | .bool _ | .string _ =>
      intro _ _
      rw [Value.IsLegible]
      trivial
  | .number (.int n) =>
      intro hfit _
      rw [Value.IsLegible]
      exact hfit
  | .number (.float x) =>
      intro _ hdoubles
      rw [Value.doublesOnly, decide_eq_true_eq] at hdoubles
      rw [Value.IsLegible]
      exact readsBack_of_isDouble hdoubles.spelled (by cases x <;> exact nofun)
  | .array items =>
      intro hfit hdoubles
      rw [Value.IsLegible]
      exact allLegible_of_doubles items hfit hdoubles
  | .object members =>
      intro hfit hdoubles
      rw [Value.IsLegible]
      exact membersLegible_of_doubles members hfit hdoubles

theorem allLegible_of_doubles (items : List Value) :
    Value.allIntegersFit items = true → allDoubles items = true → AllLegible items := by
  match items with
  | [] => exact fun _ _ => trivial
  | item :: items =>
      intro hfit hdoubles
      rw [Value.allIntegersFit, Bool.and_eq_true] at hfit
      rw [allDoubles, Bool.and_eq_true] at hdoubles
      exact ⟨item.isLegible_of_doubles hfit.1 hdoubles.1,
        allLegible_of_doubles items hfit.2 hdoubles.2⟩

theorem membersLegible_of_doubles (members : List (String × Value)) :
    Value.memberIntegersFit members = true → memberDoubles members = true →
      MembersLegible members := by
  match members with
  | [] => exact fun _ _ => trivial
  | (_, item) :: members =>
      intro hfit hdoubles
      rw [Value.memberIntegersFit, Bool.and_eq_true] at hfit
      rw [memberDoubles, Bool.and_eq_true] at hdoubles
      exact ⟨item.isLegible_of_doubles hfit.1 hdoubles.1,
        membersLegible_of_doubles members hfit.2 hdoubles.2⟩

end

end JsonQuery
