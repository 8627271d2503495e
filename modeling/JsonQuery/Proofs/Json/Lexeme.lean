import JsonQuery.Json.Printer
import JsonQuery.Json.Reader
import JsonQuery.Proofs.Number.Reading
import JsonQuery.Proofs.Value.NumberText
import JsonQuery.Value.Text
import Mathlib.Tactic

/-!
The smallest parts of a JSON text, read where they stand. A string ends with its own closing
quote, as no escape leaves a quote by itself, and a number ends where a separator or a closing
bracket follows. So what stands behind them is left as it is.
-/

namespace JsonQuery.Json

section Strings

/-- A control character is read from its escape. -/
theorem stringBody_unitEscape (opening : List Char) (fuel : Nat) (done : List Char)
    (n : Fin 32) (next : Char) (tail : List Char) :
    stringBody opening (fuel + 1) done (unitEscape n ++ next :: tail) =
      stringBody opening fuel (Char.ofNat n :: done) (next :: tail) := by
  fin_cases n <;> rfl

/-- A character is read from what is written for it, if something follows. -/
theorem stringBody_escape (opening : List Char) (fuel : Nat) (done : List Char) (c next : Char)
    (tail : List Char) :
    stringBody opening (fuel + 1) done (escape false c ++ next :: tail) =
      stringBody opening fuel (c :: done) (next :: tail) := by
  unfold escape
  split_ifs with hquoted hnewline hreturn htab hback hfeed hcontrol hplain
  · simp only [Bool.or_eq_true, beq_iff_eq] at hquoted
    rcases hquoted with rfl | rfl
    · rfl
    · rfl
  · rw [eq_of_beq hnewline]
    rfl
  · rw [eq_of_beq hreturn]
    rfl
  · rw [eq_of_beq htab]
    rfl
  · rw [eq_of_beq hback]
    rfl
  · rw [eq_of_beq hfeed]
    rfl
  · have hread := stringBody_unitEscape opening fuel done ⟨c.toNat, hcontrol⟩ next tail
    rwa [Char.ofNat_toNat] at hread
  · simp only [Bool.or_eq_true, beq_iff_eq, not_or] at hquoted
    rw [List.singleton_append, stringBody]
    · rw [if_neg hcontrol]
    · exact hquoted.1
    · exact hquoted.2
  · exact absurd rfl hplain
  · exact absurd rfl hplain

theorem length_escape_pos (c : Char) : 0 < (escape false c).length := by
  unfold escape
  split_ifs
  all_goals exact Nat.succ_pos _

/-- The characters of a string are read up to its closing quote. -/
theorem stringBody_quote (opening : List Char) {fuel : Nat} {done : List Char} (cs : List Char)
    (hfuel : (cs.flatMap (escape false)).length < fuel) (rest : List Char) :
    stringBody opening fuel done (cs.flatMap (escape false) ++ '"' :: rest) =
      .ok (String.ofList (done.reverse ++ cs), rest) := by
  induction cs generalizing fuel done with
  | nil =>
      obtain ⟨fuel, rfl⟩ := Nat.exists_eq_succ_of_ne_zero (Nat.ne_of_gt hfuel)
      rw [List.flatMap_nil, List.nil_append, List.append_nil]
      rfl
  | cons c cs ih =>
      obtain ⟨fuel, rfl⟩ := Nat.exists_eq_succ_of_ne_zero (Nat.ne_zero_of_lt hfuel)
      obtain ⟨next, tail, hnext⟩ := List.exists_cons_of_ne_nil
        (List.append_ne_nil_of_right_ne_nil (cs.flatMap (escape false))
          (List.cons_ne_nil '"' rest))
      have hshorter : (cs.flatMap (escape false)).length < fuel := by
        have hpos := length_escape_pos c
        rw [List.flatMap_cons, List.length_append] at hfuel
        omega
      rw [List.flatMap_cons, List.append_assoc, hnext, stringBody_escape, ← hnext, ih hshorter,
        List.reverse_cons, List.append_assoc, List.singleton_append]

theorem quote_append (s : String) (rest : List Char) :
    quote false s ++ rest = '"' :: (s.toList.flatMap (escape false) ++ '"' :: rest) := by
  rw [quote, List.append_assoc, List.cons_append, List.singleton_append]

/-- A string is read from its text, and what stands behind it is left. -/
theorem string_quote (s : String) (rest : List Char) :
    string (quote false s ++ rest) = .ok (s, rest) := by
  rw [string, quote_append, List.drop_one, List.tail_cons, stringBody_quote, List.reverse_nil,
    List.nil_append, String.ofList_toList]
  rw [List.length_cons, List.length_append]
  omega

end Strings

section Numbers

variable {cs rest start : List Char} {negative : Bool} {v : Value}

/-- What stands behind a value in a text: nothing, a separator or a closing bracket. -/
def Delimited (rest : List Char) : Prop := ∀ c ∈ rest.head?, c ∈ [',', ']', '\x7d']

/-- No separator and no bracket is a part of a number. -/
theorem Delimited.head (h : Delimited rest) : ∀ c ∈ rest.head?,
    Text.isAsciiDigit c = false ∧ c ≠ '.' ∧ c ≠ 'e' ∧ c ≠ 'E' ∧ c ≠ '+' ∧ c ≠ '-' := by
  have hall : ∀ c ∈ [',', ']', '\x7d'],
      Text.isAsciiDigit c = false ∧ c ≠ '.' ∧ c ≠ 'e' ∧ c ≠ 'E' ∧ c ≠ '+' ∧ c ≠ '-' := by decide
  exact fun c hc => hall c (h c hc)

/-- Digits end before what is no digit. -/
theorem takeWhile_append_of_head (h : ∀ c ∈ rest.head?, Text.isAsciiDigit c = false)
    (cs : List Char) :
    (cs ++ rest).takeWhile Text.isAsciiDigit = cs.takeWhile Text.isAsciiDigit := by
  have hnone : rest.takeWhile Text.isAsciiDigit = [] := by
    cases rest with
    | nil => rfl
    | cons c rest => rw [List.takeWhile_cons, h c rfl, if_neg Bool.false_ne_true]
  rw [List.takeWhile_append, hnone, List.append_nil]
  split
  · rename_i hall
    exact ((List.takeWhile_prefix _).eq_of_length hall).symm
  · rfl

theorem Delimited.takeWhile_append (h : Delimited rest) (cs : List Char) :
    (cs ++ rest).takeWhile Text.isAsciiDigit = cs.takeWhile Text.isAsciiDigit :=
  takeWhile_append_of_head (fun c hc => (h.head c hc).1) cs

theorem drop_takeWhile_append (cs rest : List Char) (p : Char → Bool) :
    (cs ++ rest).drop (cs.takeWhile p).length = cs.drop (cs.takeWhile p).length ++ rest :=
  List.drop_append_of_le_length (List.takeWhile_prefix _).length_le

theorem Delimited.fraction_append (h : Delimited rest) (cs : List Char) :
    fraction (cs ++ rest) = ((fraction cs).1, (fraction cs).2 ++ rest) := by
  cases cs with
  | nil =>
      cases rest with
      | nil => rfl
      | cons c rest =>
          have hpoint := (h.head c rfl).2.1
          rw [List.nil_append, fraction]
          · rfl
          · exact fun _ hc => hpoint (List.cons_eq_cons.mp hc).1
  | cons c cs =>
      by_cases hpoint : c = '.'
      · subst hpoint
        rw [List.cons_append, fraction, fraction, h.takeWhile_append, drop_takeWhile_append]
        split_ifs
        · rfl
        · rfl
      · rw [List.cons_append, fraction, fraction]
        · rfl
        · exact fun _ hc => hpoint (List.cons_eq_cons.mp hc).1
        · exact fun _ hc => hpoint (List.cons_eq_cons.mp hc).1

/-- The sign of an exponent is not taken from what stands behind a number. -/
theorem Delimited.splitSign_append (h : Delimited rest) (cs : List Char) :
    Binary64.splitSign (cs ++ rest) =
      ((Binary64.splitSign cs).1, (Binary64.splitSign cs).2 ++ rest) := by
  have hnone {c : Char} {ds : List Char} (hplus : c ≠ '+') (hminus : c ≠ '-') :
      Binary64.splitSign (c :: ds) = (false, c :: ds) := by
    rw [Binary64.splitSign]
    · exact fun _ hc => hplus (List.cons_eq_cons.mp hc).1
    · exact fun _ hc => hminus (List.cons_eq_cons.mp hc).1
  cases cs with
  | nil =>
      cases rest with
      | nil => rfl
      | cons c rest =>
          obtain ⟨-, -, -, -, hplus, hminus⟩ := h.head c rfl
          exact hnone hplus hminus
  | cons c cs =>
      by_cases hplus : c = '+'
      · subst hplus
        rfl
      · by_cases hminus : c = '-'
        · subst hminus
          rfl
        · rw [List.cons_append, hnone hplus hminus, hnone hplus hminus, List.cons_append]

theorem exponent_cons (mark : Char) (cs : List Char) :
    exponent (mark :: cs) =
      if mark == 'e' || mark == 'E' then
        let digits := (Binary64.splitSign cs).2.takeWhile Text.isAsciiDigit
        if digits.isEmpty then (none, mark :: cs)
        else (some (if (Binary64.splitSign cs).1 then -(natOfDigits digits : Int)
          else natOfDigits digits), (Binary64.splitSign cs).2.drop digits.length)
      else (none, mark :: cs) := rfl

theorem Delimited.exponent_append (h : Delimited rest) (cs : List Char) :
    exponent (cs ++ rest) = ((exponent cs).1, (exponent cs).2 ++ rest) := by
  cases cs with
  | nil =>
      cases rest with
      | nil => rfl
      | cons c rest =>
          obtain ⟨-, -, hlower, hupper, -⟩ := h.head c rfl
          rw [List.nil_append, exponent_cons, if_neg (by simp [hlower, hupper])]
          rfl
  | cons mark cs =>
      rw [List.cons_append, exponent_cons, exponent_cons, h.splitSign_append]
      dsimp only
      rw [h.takeWhile_append, drop_takeWhile_append]
      split_ifs
      all_goals rfl

/-- The digits before the point and the exponent of a number. -/
def wholeDigits (cs : List Char) : List Char :=
  match cs with
  | '0' :: _ => ['0']
  | _ => cs.takeWhile Text.isAsciiDigit

theorem length_wholeDigits_le (cs : List Char) : (wholeDigits cs).length ≤ cs.length := by
  unfold wholeDigits
  split
  · exact Nat.succ_le_succ (Nat.zero_le _)
  · exact (List.takeWhile_prefix _).length_le

theorem wholeDigits_of_head {c : Char} (hzero : c ≠ '0') (cs : List Char) :
    wholeDigits (c :: cs) = (c :: cs).takeWhile Text.isAsciiDigit := by
  rw [wholeDigits]
  exact fun _ hc => hzero (List.cons_eq_cons.mp hc).1

theorem wholeDigits_append_of_head (h : ∀ c ∈ rest.head?, Text.isAsciiDigit c = false)
    (cs : List Char) : wholeDigits (cs ++ rest) = wholeDigits cs := by
  cases cs with
  | nil =>
      cases rest with
      | nil => rfl
      | cons c rest =>
          have hzero : c ≠ '0' := by
            rintro rfl
            exact Bool.noConfusion (h '0' rfl)
          rw [List.nil_append, wholeDigits_of_head hzero]
          exact takeWhile_append_of_head h []
  | cons c cs =>
      by_cases hzero : c = '0'
      · subst hzero
        rfl
      · rw [List.cons_append, wholeDigits_of_head hzero, wholeDigits_of_head hzero]
        exact takeWhile_append_of_head h (c :: cs)

theorem Delimited.wholeDigits_append (h : Delimited rest) (cs : List Char) :
    wholeDigits (cs ++ rest) = wholeDigits cs :=
  wholeDigits_append_of_head (fun c hc => (h.head c hc).1) cs

/-- The value of a number by its parts. -/
def numeral (negative : Bool) (whole decimals : List Char) (power : Option Int) : Reading Value :=
  if decimals.isEmpty && power.isNone then
    if integerDigitLimit < whole.length then .error (.integerTooLong whole.length)
    else .ok (Value.ofInt (if negative then -(natOfDigits whole : Int) else natOfDigits whole))
  else
    .ok (Value.ofFloat (Binary64.ofDecimal negative (natOfDigits (whole ++ decimals))
      (power.getD 0 - decimals.length)))

theorem unsignedNumber_eq (start : List Char) (negative : Bool) (cs : List Char) :
    unsignedNumber start negative cs =
      if (wholeDigits cs).isEmpty then .error (.malformed .expectedValue start)
      else
        let decimals := fraction (cs.drop (wholeDigits cs).length)
        let power := exponent decimals.2
        (numeral negative (wholeDigits cs) decimals.1 power.1).map fun v => (v, power.2) := by
  have hparts : unsignedNumber start negative cs =
      if (wholeDigits cs).isEmpty then .error (.malformed .expectedValue start)
      else
        let decimals := fraction (cs.drop (wholeDigits cs).length)
        let power := exponent decimals.2
        if decimals.1.isEmpty && power.1.isNone then
          if integerDigitLimit < (wholeDigits cs).length then
            .error (.integerTooLong (wholeDigits cs).length)
          else
            let n : Int := natOfDigits (wholeDigits cs)
            .ok (Value.ofInt (if negative then -n else n), power.2)
        else
          .ok (Value.ofFloat (Binary64.ofDecimal negative
            (natOfDigits (wholeDigits cs ++ decimals.1)) (power.1.getD 0 - decimals.1.length)),
            power.2) := rfl
  rw [hparts]
  unfold numeral
  dsimp only
  split_ifs
  all_goals rfl

/-- What a number was read from begins with a digit and has the rest at its end. -/
theorem unsignedNumber_eq_ok (h : unsignedNumber start negative cs = .ok (v, rest)) :
    wholeDigits cs ≠ [] ∧ ∃ decimals power,
      fraction (cs.drop (wholeDigits cs).length) = decimals ∧ exponent decimals.2 = (power, rest) ∧
        numeral negative (wholeDigits cs) decimals.1 power = .ok v := by
  rw [unsignedNumber_eq] at h
  split at h
  · cases h
  · rename_i hwhole
    obtain ⟨w, hnumeral, hpair⟩ := Outcome.map_eq_ok.mp h
    obtain ⟨rfl, rfl⟩ := Prod.ext_iff.mp hpair
    exact ⟨by simpa using hwhole, _, _, rfl, rfl, hnumeral⟩

/-- A number is read up to what stands behind it. -/
theorem Delimited.unsignedNumber_append (h : Delimited rest)
    (hread : unsignedNumber start negative cs = .ok (v, [])) (start' : List Char) :
    unsignedNumber start' negative (cs ++ rest) = .ok (v, rest) := by
  obtain ⟨hwhole, decimals, power, hfraction, hexponent, hnumeral⟩ := unsignedNumber_eq_ok hread
  rw [unsignedNumber_eq, h.wholeDigits_append, if_neg (by simpa using hwhole),
    List.drop_append_of_le_length (length_wholeDigits_le cs), h.fraction_append, hfraction]
  dsimp only
  rw [h.exponent_append, hexponent]
  dsimp only
  rw [hnumeral, List.nil_append]
  rfl

theorem fraction_suffix (cs : List Char) : (fraction cs).2 <:+ cs := by
  unfold fraction
  split
  · dsimp only
    split_ifs
    · exact List.suffix_rfl
    · exact (List.drop_suffix _ _).trans (List.suffix_cons _ _)
  · exact List.suffix_rfl

theorem splitSign_suffix (cs : List Char) : (Binary64.splitSign cs).2 <:+ cs := by
  unfold Binary64.splitSign
  split
  · exact List.suffix_cons _ _
  · exact List.suffix_cons _ _
  · exact List.suffix_rfl

theorem exponent_suffix (cs : List Char) : (exponent cs).2 <:+ cs := by
  cases cs with
  | nil => exact List.suffix_rfl
  | cons mark cs =>
      rw [exponent_cons]
      dsimp only
      split_ifs
      all_goals first
        | exact List.suffix_rfl
        | exact ((List.drop_suffix _ _).trans (splitSign_suffix _)).trans (List.suffix_cons _ _)

/-- What is left of a text behind a number is its end. -/
theorem unsignedNumber_suffix (h : unsignedNumber start negative cs = .ok (v, rest)) :
    rest <:+ cs := by
  obtain ⟨-, decimals, power, hfraction, hexponent, -⟩ := unsignedNumber_eq_ok h
  have hbehind : rest <:+ decimals.2 := by
    have hsuffix := exponent_suffix decimals.2
    rwa [hexponent] at hsuffix
  have hfront : decimals.2 <:+ cs.drop (wholeDigits cs).length := by
    rw [← hfraction]
    exact fraction_suffix _
  exact (hbehind.trans hfront).trans (List.drop_suffix _ _)

/-- A number begins with a digit. -/
theorem exists_digit_of_unsignedNumber (h : unsignedNumber start negative cs = .ok (v, rest)) :
    ∃ c ds, cs = c :: ds ∧ Text.isAsciiDigit c = true := by
  obtain ⟨hwhole, -⟩ := unsignedNumber_eq_ok h
  cases cs with
  | nil => exact absurd rfl hwhole
  | cons c cs =>
      refine ⟨c, cs, rfl, ?_⟩
      by_cases hzero : c = '0'
      · subst hzero
        rfl
      · by_contra hdigit
        rw [wholeDigits_of_head hzero, List.takeWhile_cons, if_neg hdigit] at hwhole
        exact hwhole rfl

theorem mem_digits_of_isAsciiDigit {c : Char} (h : Text.isAsciiDigit c = true) :
    c ∈ "0123456789".toList := by
  simp only [Text.isAsciiDigit, Bool.and_eq_true, decide_eq_true_eq] at h
  obtain ⟨hlow, hhigh⟩ := h
  rw [← Char.ofNat_toNat c]
  interval_cases c.toNat <;> decide

theorem scalar_digit {c : Char} (h : Text.isAsciiDigit c = true) (cs : List Char) :
    scalar (c :: cs) = unsignedNumber (c :: cs) false (c :: cs) := by
  have hmem := mem_digits_of_isAsciiDigit h
  fin_cases hmem <;> rfl

theorem scalar_minus_digit {c : Char} (h : Text.isAsciiDigit c = true) (cs : List Char) :
    scalar ('-' :: c :: cs) = unsignedNumber ('-' :: c :: cs) true (c :: cs) := by
  have hmem := mem_digits_of_isAsciiDigit h
  fin_cases hmem <;> rfl

/-- Signs and digits are no white space. -/
theorem numericMarks_solid : ∀ c ∈ numericMarks, isSpace c = false := by decide

/-- Behind a sign only the word for infinity is no number. -/
theorem scalar_minus {ds : List Char} (h : scalar ('-' :: ds) = .ok (v, rest))
    (hv : v ≠ .ofFloat (.infinite true)) :
    unsignedNumber ('-' :: ds) true ds = .ok (v, rest) := by
  unfold scalar at h
  split at h
  all_goals try rename_i heq; cases heq
  all_goals try exact h
  · exact absurd (Prod.ext_iff.mp (Except.ok.inj h)).1.symm hv
  · rename_i hother
    exact absurd rfl (hother ds)

/-- What begins like a number is read as one. -/
theorem exists_unsignedNumber (hcs : BeginsNumeric cs) (h : scalar cs = .ok (v, rest))
    (hv : v ≠ .ofFloat (.infinite true)) :
    ∃ negative c ds, Text.isAsciiDigit c = true ∧
      cs = (if negative then ['-'] else []) ++ c :: ds ∧
      unsignedNumber cs negative (c :: ds) = .ok (v, rest) := by
  obtain ⟨c, ds, rfl, hc⟩ := hcs
  by_cases hminus : c = '-'
  · subst hminus
    have hread := scalar_minus h hv
    obtain ⟨c, ds, rfl, hc⟩ := exists_digit_of_unsignedNumber hread
    exact ⟨true, c, ds, hc, rfl, hread⟩
  · have hdigits : ∀ c ∈ numericMarks, c ≠ '-' → Text.isAsciiDigit c = true := by decide
    have hdigit := hdigits c hc hminus
    rw [scalar_digit hdigit] at h
    exact ⟨false, c, ds, hdigit, rfl, h⟩

theorem scalar_signed {negative : Bool} {c : Char} (h : Text.isAsciiDigit c = true)
    (ds : List Char) :
    scalar ((if negative then ['-'] else []) ++ c :: ds) =
      unsignedNumber ((if negative then ['-'] else []) ++ c :: ds) negative (c :: ds) := by
  cases negative with
  | true => exact scalar_minus_digit h ds
  | false => exact scalar_digit h ds

/-- A number is read up to what stands behind it. -/
theorem Delimited.scalar_append (h : Delimited rest) (hcs : BeginsNumeric cs)
    (hread : scalar cs = .ok (v, [])) (hv : v ≠ .ofFloat (.infinite true)) :
    scalar (cs ++ rest) = .ok (v, rest) := by
  obtain ⟨negative, c, ds, hc, rfl, hunsigned⟩ := exists_unsignedNumber hcs hread hv
  rw [List.append_assoc, List.cons_append, scalar_signed hc]
  exact h.unsignedNumber_append hunsigned _

theorem scalar_suffix (hcs : BeginsNumeric cs) (h : scalar cs = .ok (v, rest))
    (hv : v ≠ .ofFloat (.infinite true)) : rest <:+ cs := by
  obtain ⟨negative, c, ds, -, rfl, hunsigned⟩ := exists_unsignedNumber hcs h hv
  exact (unsignedNumber_suffix hunsigned).trans (List.suffix_append _ _)

end Numbers

section Integers

theorem isAsciiDigit_of_isDigit {c : Char} (h : c.isDigit = true) :
    Text.isAsciiDigit c = true := by
  obtain ⟨hlow, hhigh⟩ := Char.isDigit_iff_toNat.mp h
  change 48 ≤ c.toNat at hlow
  change c.toNat ≤ 57 at hhigh
  rw [Text.isAsciiDigit, decide_eq_true hlow, decide_eq_true hhigh]
  rfl

theorem isAsciiDigit_of_mem_toDigits {c : Char} {n : Nat} (h : c ∈ Nat.toDigits 10 n) :
    Text.isAsciiDigit c = true :=
  isAsciiDigit_of_isDigit (Nat.isDigit_of_mem_toDigits (by decide) (by decide) h)

theorem wholeDigits_toDigits (n : Nat) : wholeDigits (Nat.toDigits 10 n) = Nat.toDigits 10 n := by
  rcases Nat.eq_zero_or_pos n with rfl | hn
  · rfl
  · obtain ⟨c, cs, hdigits⟩ := List.exists_cons_of_ne_nil (Nat.toDigits_ne_nil (b := 10) (n := n))
    have hzero : c ≠ '0' := by
      rintro rfl
      exact head?_toDigits_ne_zero hn (by rw [hdigits]; rfl)
    rw [hdigits, wholeDigits_of_head hzero, ← hdigits, List.takeWhile_eq_self_iff]
    exact fun _ => isAsciiDigit_of_mem_toDigits

theorem unsignedNumber_toDigits {n : Nat} (h : n < 10 ^ integerDigitLimit)
    (start : List Char) (negative : Bool) :
    unsignedNumber start negative (Nat.toDigits 10 n) =
      .ok (.ofInt (if negative then -(n : Int) else n), []) := by
  have hlength : ¬ integerDigitLimit < (Nat.toDigits 10 n).length :=
    Nat.not_lt.mpr ((Nat.length_toDigits_le_iff (by decide) (by decide)).mpr h)
  have hnumeral : numeral negative (Nat.toDigits 10 n) [] none =
      .ok (.ofInt (if negative then -(n : Int) else n)) := by
    rw [numeral, List.isEmpty_nil, Option.isNone_none, Bool.and_self, if_pos rfl, if_neg hlength,
      natOfDigits_toDigits]
  rw [unsignedNumber_eq, wholeDigits_toDigits, List.drop_length, if_neg (by simp)]
  change (numeral negative (Nat.toDigits 10 n) [] none).map (fun v => (v, [])) = _
  rw [hnumeral]
  rfl

/-- An integer that can be written is read from its text. -/
theorem scalar_toString {n : Int} (h : Value.integerFits n = true) :
    scalar (toString n).toList = .ok (.ofInt n, []) := by
  have hfits : n.natAbs < 10 ^ integerDigitLimit := by
    have hpower (k : Nat) : powerOfTen k = 10 ^ k := rfl
    rwa [Value.integerFits, decide_eq_true_eq, hpower] at h
  have hread (negative : Bool) (k : Nat) (hk : k < 10 ^ integerDigitLimit) :
      scalar ((if negative then ['-'] else []) ++ Nat.toDigits 10 k) =
        .ok (.ofInt (if negative then -(k : Int) else k), []) := by
    obtain ⟨c, cs, hdigits⟩ := List.exists_cons_of_ne_nil (Nat.toDigits_ne_nil (b := 10) (n := k))
    have hc : Text.isAsciiDigit c = true :=
      isAsciiDigit_of_mem_toDigits (n := k) (by rw [hdigits]; exact List.mem_cons_self)
    rw [hdigits, scalar_signed hc, ← hdigits]
    exact unsignedNumber_toDigits hk _ _
  cases n with
  | ofNat k =>
      change scalar (Nat.repr k).toList = _
      rw [Nat.toList_repr]
      exact hread false k hfits
  | negSucc k =>
      change scalar ("-" ++ Nat.repr (k + 1)).toList = _
      rw [String.toList_append, Nat.toList_repr]
      exact hread true (k + 1) hfits

end Integers

section Floats

/-- The text of a float is read as the same float. -/
def ReadsBack (x : Binary64) : Prop := read (floatText x) = .ok (.ofFloat x)

theorem readChars_eq_ok {cs : List Char} {v : Value} (h : readChars cs = .ok v) :
    ∃ rest, value (2 * cs.length + 2) (skipSpace cs) = .ok (v, rest) ∧ skipSpace rest = [] := by
  unfold readChars at h
  split at h
  · cases h
  · obtain ⟨⟨w, rest⟩, hvalue, hbehind⟩ := Outcome.bind_eq_ok.mp h
    dsimp only at hbehind
    split at hbehind
    · rename_i hend
      rw [← Outcome.pure_eq_ok.mp hbehind]
      exact ⟨rest, hvalue, hend⟩
    · cases hbehind

/-- A text is read if its value is and nothing is left behind it. -/
theorem readChars_of_value {cs : List Char} {v : Value} (hmark : cs.head? ≠ some '\uFEFF')
    (hvalue : value (2 * cs.length + 2) (skipSpace cs) = .ok (v, [])) :
    readChars cs = .ok v := by
  rw [readChars, if_neg (by simpa using hmark), hvalue]
  rfl

theorem read_eq_ok_iff {text : String} {v : Value} :
    read text = .ok v ↔ readChars text.toList = .ok v := by
  rw [read]
  split
  · rename_i w hchars
    rw [hchars, Except.ok.injEq, Except.ok.injEq]
  · rename_i problem rest hchars
    rw [hchars]
    exact iff_of_false nofun nofun
  · rename_i digits hchars
    rw [hchars]
    exact iff_of_false nofun nofun

/-- What opens no string, no array and no object is a scalar. -/
theorem value_scalar (fuel : Nat) {c : Char} (hquote : c ≠ '"') (hbracket : c ≠ '[')
    (hbrace : c ≠ '\x7b') (cs : List Char) : value (fuel + 1) (c :: cs) = scalar (c :: cs) := by
  rw [value]
  · exact fun _ h => hquote (List.cons_eq_cons.mp h).1
  · exact fun _ h => hbracket (List.cons_eq_cons.mp h).1
  · exact fun _ h => hbrace (List.cons_eq_cons.mp h).1

theorem value_of_beginsNumeric (fuel : Nat) {cs : List Char} (h : BeginsNumeric cs) :
    value (fuel + 1) cs = scalar cs := by
  have hother : ∀ c ∈ numericMarks, c ≠ '"' ∧ c ≠ '[' ∧ c ≠ '\x7b' := by decide
  obtain ⟨c, ds, rfl, hc⟩ := h
  obtain ⟨hquote, hbracket, hbrace⟩ := hother c hc
  exact value_scalar fuel hquote hbracket hbrace ds

/-- There is no white space in the text of a finite number. -/
theorem dataText_solid (negative : Bool) (units : Nat) :
    ∀ c ∈ (Binary64.finite negative units).dataText.toList, isSpace c = false := by
  have hdigit (c : Char) (hc : c.isDigit = true) : isSpace c = false :=
    numericMarks_solid c (mem_numericMarks_of_isDigit hc)
  obtain ⟨d, hd, htext⟩ := exists_toList_dataText negative units
  rw [htext, List.forall_mem_append]
  refine ⟨by cases negative <;> decide, hd.forall_mem_write _ hdigit (by decide)⟩

theorem skipSpace_of_solid {cs : List Char} (h : ∀ c ∈ cs, isSpace c = false) :
    skipSpace cs = cs := by
  cases cs with
  | nil => rfl
  | cons c cs =>
      rw [skipSpace, List.dropWhile_cons, h c List.mem_cons_self, if_neg Bool.false_ne_true]

/-- A float that is read back from its text is read back from it wherever it stands. -/
theorem ReadsBack.scalar_append {x : Binary64} (h : ReadsBack x) {rest : List Char}
    (hrest : Delimited rest) :
    scalar ((floatText x).toList ++ rest) = .ok (.ofFloat x, rest) := by
  cases x with
  | nan =>
      have hword : read "NaN" = .ok (.ofFloat .spelledNan) := rfl
      cases hword.symm.trans h
  | spelledNan => rfl
  | infinite negative => cases negative <;> rfl
  | finite negative units =>
      have hsolid := dataText_solid negative units
      have hcs := beginsNumeric_dataText negative units
      have hother : Value.ofFloat (.finite negative units) ≠ .ofFloat (.infinite true) := nofun
      obtain ⟨behind, hvalue, hend⟩ := readChars_eq_ok (read_eq_ok_iff.mp h)
      change value _ (skipSpace (Binary64.finite negative units).dataText.toList) = _ at hvalue
      rw [skipSpace_of_solid hsolid, value_of_beginsNumeric _ hcs] at hvalue
      -- nothing is left behind the number, since there is no white space in it
      have hnothing : behind = [] := by
        have hsuffix := scalar_suffix hcs hvalue hother
        rwa [skipSpace_of_solid fun c hc => hsolid c (hsuffix.subset hc)] at hend
      rw [hnothing] at hvalue
      exact hrest.scalar_append hcs hvalue hother

/-- What the text of a number can begin with. -/
theorem exists_head_numberText (n : Number) :
    ∃ c cs, (numberText n).toList = c :: cs ∧ c ∈ numericMarks ++ ['N', 'I'] := by
  have hnumeric {s : String} (h : BeginsNumeric s.toList) :
      ∃ c cs, s.toList = c :: cs ∧ c ∈ numericMarks ++ ['N', 'I'] := by
    obtain ⟨c, cs, hs, hc⟩ := h
    exact ⟨c, cs, hs, List.mem_append_left _ hc⟩
  cases n with
  | int n => exact hnumeric (beginsNumeric_toString n)
  | float x =>
      cases x with
      | nan | spelledNan => exact ⟨'N', _, rfl, by decide⟩
      | infinite negative =>
          cases negative with
          | false => exact ⟨'I', _, rfl, by decide⟩
          | true => exact ⟨'-', _, rfl, by decide⟩
      | finite negative units => exact hnumeric (beginsNumeric_dataText negative units)

end Floats

end JsonQuery.Json
