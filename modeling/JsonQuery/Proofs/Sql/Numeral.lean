import JsonQuery.Proofs.Sql.Word
import Mathlib.Data.List.TakeWhile
import Mathlib.Tactic

/-!
Numbers at the front of a text: digits, maybe behind a minus sign, and maybe with a point and
further digits. Where a separator follows them they are read as one number, with nothing given
up for a name that runs into it.
-/

namespace JsonQuery.Sql

open Text

section Digits

variable {c : Char}

/-- What holds of the digits of every script holds of every digit. -/
theorem forall_isDecimal {p : Char → Prop}
    (hp : ∀ first ∈ 48 :: digitZeros, ∀ d < 10, p (Char.ofNat (first + d)))
    (h : isDecimal c = true) : p c := by
  have hdigit : ∃ first ∈ 48 :: digitZeros, first ≤ c.toNat ∧ c.toNat ≤ first + 9 := by
    rw [isDecimal, digitValue?] at h
    split at h
    · split at h
      · rename_i hrange
        simp only [Bool.and_eq_true, decide_eq_true_eq] at hrange
        exact ⟨48, List.mem_cons_self, hrange.1, hrange.2⟩
      · cases h
    · rw [Option.isSome_map] at h
      obtain ⟨first, hfirst⟩ := Option.isSome_iff_exists.mp h
      have hrange := List.find?_some hfirst
      simp only [Bool.and_eq_true, decide_eq_true_eq] at hrange
      exact ⟨first, List.mem_cons_of_mem _ (List.mem_of_find?_eq_some hfirst), hrange.1, hrange.2⟩
  obtain ⟨first, hmem, hlow, hhigh⟩ := hdigit
  have hc := hp first hmem (c.toNat - first) (by omega)
  rwa [Nat.add_sub_cancel' hlow, Char.ofNat_toNat] at hc

theorem isNameStart_of_isDecimal (h : isDecimal c = true) : isNameStart c = false := by
  have hall : ∀ first ∈ 48 :: digitZeros, ∀ d < 10,
      isNameStart (Char.ofNat (first + d)) = false := by
    decide +kernel
  exact forall_isDecimal (p := fun c => isNameStart c = false) hall h

theorem isDecimal_eq_false_of_isSeparator (h : isSeparator c = true) : isDecimal c = false := by
  rcases cases_of_isSeparator h with hblank | hsign
  · have hall : ∀ n ∈ blankCodes, isDecimal (Char.ofNat n) = false := by decide +kernel
    exact forall_isBlank (p := fun c => isDecimal c = false) hall hblank
  · have hall : ∀ c ∈ separators, isDecimal c = false := by decide
    exact hall c hsign

theorem isBlank_eq_false_of_isDecimal (h : isDecimal c = true) : isBlank c = false := by
  rw [Bool.eq_false_iff]
  intro hblank
  have hseparator : isSeparator c = true := by
    rw [isSeparator, hblank]
    rfl
  rw [isDecimal_eq_false_of_isSeparator hseparator] at h
  exact Bool.false_ne_true h

/-- What is no part of a word, and what is a digit, is no form of a letter. -/
theorem isLetter_eq_false {k : Char} (hk : isKeyLetter k = true)
    (h : isDecimal c = true ∨ isWord c = false) : isLetter k c = false := by
  rw [Bool.eq_false_iff]
  intro hletter
  obtain ⟨hword, hdigit⟩ := isWord_of_isLetter hk hletter
  rcases h with hdecimal | hother
  · rw [hdecimal] at hdigit
    exact Bool.false_ne_true hdigit.symm
  · rw [hother] at hword
    exact Bool.false_ne_true hword

theorem phraseLength?_eq_none {phrases : List (List String)} {cs : List Char}
    (hphrases : phrases ∈ phraseLists) (h : isDecimal c = true ∨ isWord c = false) :
    phraseLength? phrases (c :: cs) = none := by
  cases hfound : phraseLength? phrases (c :: cs) with
  | none => rfl
  | some n =>
      obtain ⟨phrase, hmem, r, hr, -⟩ := exists_of_phraseLength? hfound
      obtain ⟨k, d, tail, hk, hcs, hletter⟩ :=
        (wellSpelled_of_mem hphrases hmem).exists_letter hr
      rw [← (List.cons.inj hcs).1, isLetter_eq_false hk h] at hletter
      exact absurd hletter Bool.false_ne_true

end Digits

/-- The digits of a number before its point. -/
def wholePart (cs : List Char) : List Char := (cs.drop (signLength cs)).takeWhile isDecimal

/-- What stands behind the first digits of a number. -/
def fractionPart (cs : List Char) : List Char := (cs.drop (signLength cs)).dropWhile isDecimal

/-- A point with digits behind it, or nothing. -/
def IsFraction : List Char → Prop
  | [] => True
  | c :: ds => c = '.' ∧ ds ≠ [] ∧ ∀ d ∈ ds, isDecimal d = true

instance : (fraction : List Char) → Decidable (IsFraction fraction)
  | [] => .isTrue trivial
  | c :: ds => inferInstanceAs (Decidable (c = '.' ∧ ds ≠ [] ∧ ∀ d ∈ ds, isDecimal d = true))

/-- A number that is written with digits, maybe behind a minus sign, and maybe with a point
and further digits. -/
structure IsNumeral (cs : List Char) : Prop where
  whole : wholePart cs ≠ []
  fraction : IsFraction (fractionPart cs)

instance (cs : List Char) : Decidable (IsNumeral cs) :=
  decidable_of_iff (wholePart cs ≠ [] ∧ IsFraction (fractionPart cs))
    ⟨fun ⟨h₁, h₂⟩ => ⟨h₁, h₂⟩, fun h => ⟨h.whole, h.fraction⟩⟩

/-- A text begins with the digits and the fraction of a number, and then something parts the
number from what follows. -/
structure Numbered (cs whole fraction rest : List Char) : Prop where
  body : cs.drop (signLength cs) = whole ++ (fraction ++ rest)
  nonempty : whole ≠ []
  digits : ∀ c ∈ whole, isDecimal c = true
  fraction : IsFraction fraction
  ends : endsOr isSeparator rest = true

namespace Numbered

variable {cs whole fraction rest : List Char}

theorem countWhile (h : Numbered cs whole fraction rest) :
    countWhile isDecimal (whole ++ (fraction ++ rest)) = whole.length := by
  refine countWhile_append h.digits ?_
  cases fraction with
  | nil => exact goesOn_eq_false_of_endsOr (fun _ => isDecimal_eq_false_of_isSeparator) h.ends
  | cons c ds =>
      rw [h.fraction.1]
      exact (by decide : isDecimal '.' = false)

/-- Behind the first digit stands a digit, a point or a separator, and no mark of hexadecimal
digits. -/
theorem hexadecimal (h : Numbered cs whole fraction rest) : hexadecimalLength? cs = none := by
  unfold hexadecimalLength?
  dsimp only
  rw [h.body]
  split
  · rename_i mark later heq
    obtain ⟨c, ds, hwhole⟩ := List.exists_cons_of_ne_nil h.nonempty
    rw [hwhole] at heq
    have hlater : ds ++ (fraction ++ rest) = mark :: later := (List.cons.inj heq).2
    have hmark : isDecimal mark = true ∨ isWord mark = false := by
      cases ds with
      | cons d ds =>
          rw [← (List.cons.inj hlater).1]
          exact .inl (h.digits d (by rw [hwhole]; simp))
      | nil =>
          refine .inr ?_
          cases fraction with
          | nil =>
              have hends := h.ends
              rw [show rest = mark :: later from hlater] at hends
              exact isWord_eq_false_of_isSeparator hends
          | cons point ds =>
              rw [← (List.cons.inj hlater).1, h.fraction.1]
              decide
    rw [isLetter_eq_false (by decide) hmark]
    rfl
  · rfl

/-- No mark of an exponent stands behind the number. -/
theorem scientific (h : Numbered cs whole fraction rest) : scientificLength? cs = none := by
  have hmark (d : Char) (later : List Char) (hrest : rest = d :: later) :
      d ≠ '.' ∧ isLetter 'E' d = false := by
    have hends := h.ends
    rw [hrest] at hends
    exact ⟨ne_of_isSeparator hends rfl,
      isLetter_eq_false (by decide) (.inr (isWord_eq_false_of_isSeparator hends))⟩
  unfold scientificLength?
  dsimp only
  rw [h.body, h.countWhile, List.drop_left]
  cases fraction with
  | nil =>
      cases rest with
      | nil => simp
      | cons d later =>
          obtain ⟨hpoint, hletter⟩ := hmark d later rfl
          simp [hpoint, hletter]
  | cons point ds =>
      obtain ⟨rfl, hne, hds⟩ := h.fraction
      have hcount : Sql.countWhile isDecimal (ds ++ rest) = ds.length := countWhile_append hds
        (goesOn_eq_false_of_endsOr (fun _ => isDecimal_eq_false_of_isSeparator) h.ends)
      have hpos : 0 < ds.length := List.length_pos_iff.mpr hne
      have hdrop : (whole ++ ('.' :: ds ++ rest)).drop (whole.length + (ds.length + 1)) = rest := by
        rw [← List.length_cons (a := '.'), ← List.length_append, ← List.append_assoc,
          List.drop_left]
      rw [List.cons_append] at hdrop ⊢
      simp only [hcount, if_pos hpos, hdrop]
      cases rest with
      | nil => rfl
      | cons d later => simp [(hmark d later rfl).2]

theorem goesOn_extends (h : Numbered cs whole fraction rest) :
    goesOn extendsNumber rest = false :=
  goesOn_eq_false_of_endsOr (fun _ => extendsNumber_eq_false_of_isSeparator) h.ends

theorem decimal_absent (h : Numbered cs whole [] rest) : decimalLength? cs = none := by
  unfold decimalLength?
  dsimp only
  rw [h.body, h.countWhile, List.drop_left, List.nil_append]
  have hends := h.ends
  split
  · exact absurd hends Bool.false_ne_true
  · rfl

theorem decimal_present {ds : List Char} (h : Numbered cs whole ('.' :: ds) rest) :
    decimalLength? cs = some (signLength cs + whole.length + ('.' :: ds).length) := by
  obtain ⟨-, -, hds⟩ := h.fraction
  have hcount : Sql.countWhile isDecimal (ds ++ rest) = ds.length := countWhile_append hds
    (goesOn_eq_false_of_endsOr (fun _ => isDecimal_eq_false_of_isSeparator) h.ends)
  have hwhole : whole.length ≠ 0 := by simpa using h.nonempty
  unfold decimalLength?
  dsimp only
  rw [h.body, h.countWhile, List.drop_left, List.cons_append]
  simp [hcount, trimRun?, h.goesOn_extends, hwhole]
  omega

theorem integer (h : Numbered cs whole [] rest) :
    integerLength? cs = some (signLength cs + whole.length) := by
  have hwhole : whole.length ≠ 0 := by simpa using h.nonempty
  unfold integerLength?
  dsimp only
  rw [h.body, h.countWhile, List.drop_left, List.nil_append]
  simp [trimRun?, h.goesOn_extends, hwhole]

theorem numeral (h : Numbered cs whole fraction rest) :
    numeralLength? cs = some (signLength cs + whole.length + fraction.length) := by
  rw [numeralLength?, h.hexadecimal, h.scientific]
  cases fraction with
  | nil =>
      rw [h.decimal_absent, h.integer]
      rfl
  | cons point ds =>
      obtain rfl := h.fraction.1
      rw [h.decimal_present]
      rfl

end Numbered

namespace IsNumeral

variable {cs rest : List Char}

theorem ne_nil (h : IsNumeral cs) : cs ≠ [] := by
  rintro rfl
  exact h.whole rfl

/-- A number begins with a minus sign and a digit or with a digit. -/
theorem exists_head (h : IsNumeral cs) :
    ∃ c tail, cs = c :: tail ∧ (isDecimal c = true ∨
      c = '-' ∧ ∃ d later, tail = d :: later ∧ isDecimal d = true) := by
  have hfirst {body : List Char} (hbody : body.takeWhile isDecimal ≠ []) :
      ∃ d later, body = d :: later ∧ isDecimal d = true := by
    cases body with
    | nil => exact absurd rfl hbody
    | cons d later =>
        refine ⟨d, later, rfl, ?_⟩
        by_contra hd
        exact hbody (List.takeWhile_cons_of_neg hd)
  obtain ⟨c, tail, rfl⟩ := List.exists_cons_of_ne_nil h.ne_nil
  refine ⟨c, tail, rfl, ?_⟩
  have hwhole := h.whole
  rw [wholePart] at hwhole
  by_cases hc : c = '-'
  · subst hc
    exact .inr ⟨rfl, hfirst hwhole⟩
  · rw [signLength_of_ne hc, List.drop_zero] at hwhole
    obtain ⟨d, later, hcs, hd⟩ := hfirst hwhole
    rw [(List.cons.inj hcs).1]
    exact .inl hd

theorem signLength_append (h : IsNumeral cs) (rest : List Char) :
    signLength (cs ++ rest) = signLength cs := by
  obtain ⟨c, tail, rfl⟩ := List.exists_cons_of_ne_nil h.ne_nil
  by_cases hc : c = '-'
  · rw [hc]
    rfl
  · rw [List.cons_append, signLength_of_ne hc, signLength_of_ne hc]

theorem signLength_le (h : IsNumeral cs) : signLength cs ≤ cs.length := by
  obtain ⟨c, tail, rfl, -⟩ := h.exists_head
  by_cases hc : c = '-'
  · rw [hc]
    exact Nat.le_add_left _ _
  · rw [signLength_of_ne hc]
    exact Nat.zero_le _

theorem numbered (h : IsNumeral cs) (hrest : endsOr isSeparator rest = true) :
    Numbered (cs ++ rest) (wholePart cs) (fractionPart cs) rest where
  body := by
    rw [h.signLength_append, List.drop_append_of_le_length h.signLength_le, wholePart,
      fractionPart, ← List.append_assoc, List.takeWhile_append_dropWhile]
  nonempty := h.whole
  digits := fun _ hc => List.mem_takeWhile_imp hc
  fraction := h.fraction
  ends := hrest

theorem length_eq (h : IsNumeral cs) :
    signLength cs + (wholePart cs).length + (fractionPart cs).length = cs.length := by
  have hbody : (wholePart cs).length + (fractionPart cs).length =
      (cs.drop (signLength cs)).length := by
    rw [wholePart, fractionPart, ← List.length_append, List.takeWhile_append_dropWhile]
  rw [Nat.add_assoc, hbody, List.length_drop]
  exact Nat.add_sub_cancel' h.signLength_le

theorem numeralLength? (h : IsNumeral cs) (hrest : endsOr isSeparator rest = true) :
    numeralLength? (cs ++ rest) = some cs.length := by
  rw [(h.numbered hrest).numeral, h.signLength_append, h.length_eq]

/-- A number ends with a digit. -/
theorem exists_last (h : IsNumeral cs) : ∃ front c, cs = front ++ [c] ∧ isDecimal c = true := by
  have hcs : cs = cs.take (signLength cs) ++ (wholePart cs ++ fractionPart cs) := by
    rw [wholePart, fractionPart, List.takeWhile_append_dropWhile, List.take_append_drop]
  have hlast {ds : List Char} (hne : ds ≠ []) (hds : ∀ c ∈ ds, isDecimal c = true) :
      ∃ front c, ds = front ++ [c] ∧ isDecimal c = true := by
    obtain ⟨front, c, rfl⟩ := (List.eq_nil_or_concat' ds).resolve_left hne
    exact ⟨front, c, rfl, hds c (by simp)⟩
  have hfraction := h.fraction
  cases hds : fractionPart cs with
  | nil =>
      obtain ⟨front, c, hwhole, hc⟩ := hlast h.whole fun _ => List.mem_takeWhile_imp
      rw [hds, List.append_nil, hwhole, ← List.append_assoc] at hcs
      exact ⟨_, c, hcs, hc⟩
  | cons point ds =>
      rw [hds] at hfraction
      obtain ⟨front, c, hds', hc⟩ := hlast hfraction.2.1 hfraction.2.2
      rw [hds, hds', ← List.cons_append, ← List.append_assoc, ← List.append_assoc] at hcs
      exact ⟨_, c, hcs, hc⟩

theorem of_digits {ds : List Char} (hne : ds ≠ []) (hds : ∀ c ∈ ds, isDecimal c = true) :
    IsNumeral ds := by
  obtain ⟨c, tail, htail⟩ := List.exists_cons_of_ne_nil hne
  have hsign : signLength ds = 0 := by
    rw [htail]
    refine signLength_of_ne ?_
    rintro rfl
    exact absurd (hds '-' (by rw [htail]; exact List.mem_cons_self)) (by decide)
  refine ⟨?_, ?_⟩
  · rw [wholePart, hsign, List.drop_zero, List.takeWhile_eq_self_iff.mpr hds]
    exact hne
  · rw [fractionPart, hsign, List.drop_zero, List.dropWhile_eq_nil_iff.mpr hds]
    trivial

/-- A number is read as one. Only the rules for remarks and variables look for a minus sign or
a digit before it. -/
theorem classify (before : Option Char) (h : IsNumeral cs)
    (hrest : endsOr isSeparator rest = true) :
    classify before (cs ++ rest) = (.number, cs.length) := by
  have hnumber := h.numeralLength? hrest
  obtain ⟨c, tail, rfl, hc⟩ := h.exists_head
  rw [List.cons_append] at hnumber ⊢
  rcases hc with hc | ⟨rfl, d, later, rfl, hd⟩
  · have hne (mark : Char) (hmark : isDecimal mark = false) : c ≠ mark := by
      rintro rfl
      rw [hmark] at hc
      exact Bool.false_ne_true hc
    have hblank : isBlank c = false := isBlank_eq_false_of_isDecimal hc
    have hleading : phraseLength? leadingKeywords (c :: (tail ++ rest)) = none :=
      phraseLength?_eq_none (by simp [phraseLists]) (.inl hc)
    obtain ⟨hdollar, hblock, hline, hpercent, hvariable, hcommand, htemporary, -⟩ :=
      marks_eq_none before (tail ++ rest) fun mark hmark =>
        hne mark ((by decide : ∀ mark ∈ marks, isDecimal mark = false) mark hmark)
    have hqualified : qualifiedLength? before (c :: (tail ++ rest)) = none := by
      simp [qualifiedLength?, nameLength?, goesOn, isNameStart_of_isDecimal hc]
    have hsign (text : String) {sign : Char} {more : List Char}
        (htext : text.toList = sign :: more) (hmark : isDecimal sign = false) :
        signOf text before (c :: (tail ++ rest)) = none :=
      signOf_of_ne text htext (hne sign hmark)
    have hquote (quote : Char) (hmark : isDecimal quote = false) :
        quotedLength? quote false (c :: (tail ++ rest)) = none :=
      quotedLength?_of_ne false (hne quote hmark)
    unfold Sql.classify rules
    simp only [List.findSome?, hdollar, hblock, hline, blankLength?_of_eq_false hblank,
      hsign ":=" rfl (by decide), hsign "::" rfl (by decide), hsign "*" rfl (by decide),
      hquote '\x60' (by decide), hquote '´' (by decide), hsign "?" rfl (by decide), hpercent,
      hvariable, hcommand, hleading, htemporary, hqualified, hnumber]
    rfl
  · have hline : lineRemarkLength? before ('-' :: (d :: later ++ rest)) = none := by
      unfold lineRemarkLength?
      split
      · rename_i heq
        rw [(List.cons.inj (List.cons.inj heq).2).1] at hd
        exact absurd hd (by decide)
      · rename_i heq
        exact absurd (List.cons.inj heq).1 (by decide)
      · rfl
    have hleading : phraseLength? leadingKeywords ('-' :: (d :: later ++ rest)) = none :=
      phraseLength?_eq_none (by simp [phraseLists]) (.inr (by decide))
    unfold Sql.classify rules
    simp only [List.findSome?, hline, hleading, hnumber]
    rfl

end IsNumeral

end JsonQuery.Sql
