import JsonQuery.Proofs.Sql.Trailing

/-!
Blanks and semicolons behind a word or a number, and behind any text. The rules for words and
numbers do not look past the end of a text into them either, which leaves the rule for remarks:
a remark goes on up to the end of its line, and a number sign at the very end of a text opens
one if a space follows. In all other cases the first lexeme of a text stays what it is.
-/

namespace JsonQuery.Sql

open Text

variable {cs t : List Char} {n : Nat}

section Keywords

/-- A way into a text that finds no end behind it: what stands behind the text stands behind
what remains, and there is no way into blanks and semicolons. -/
structure Enters (way : List Char → Option (List Char)) : Prop where
  carries : ∀ cs t, IsTrailer t → way (cs ++ t) = (way cs).map (· ++ t)
  stuck : ∀ t, IsTrailer t → way t = none

theorem isTrailer_nil : IsTrailer [] := fun _ h => absurd h List.not_mem_nil

theorem IsTrailer.dropWhile (ht : IsTrailer t) (p : Char → Bool) : IsTrailer (t.dropWhile p) :=
  fun c hc => ht c ((List.dropWhile_sublist p).mem hc)

theorem dropKeyword?_enters {ks : List Char} (hne : ks ≠ [])
    (hkeys : ∀ k ∈ ks, Keeps (isLetter k)) : Enters (dropKeyword? ks) := by
  have hstuck {k : Char} {ks : List Char} (hk : Keeps (isLetter k)) {t : List Char}
      (ht : IsTrailer t) : dropKeyword? (k :: ks) t = none := by
    cases t with
    | nil => rfl
    | cons d t => exact if_neg (by simp [hk d (ht d List.mem_cons_self)])
  refine ⟨fun cs t ht => ?_, fun t ht => ?_⟩
  · clear hne
    induction ks generalizing cs with
    | nil => rfl
    | cons k ks ih =>
        cases cs with
        | nil => exact hstuck (hkeys k List.mem_cons_self) ht
        | cons c cs =>
            rw [List.cons_append, dropKeyword?, dropKeyword?]
            split
            · exact ih (fun k hk => hkeys k (List.mem_cons_of_mem _ hk)) cs
            · rfl
  · obtain ⟨k, ks, rfl⟩ := List.exists_cons_of_ne_nil hne
    exact hstuck (hkeys k List.mem_cons_self) ht

/-- A way that goes on behind blanks finds no end behind a text either. -/
theorem Enters.behindBlanks {way : List Char → Option (List Char)} (h : Enters way) :
    (∀ cs t, IsTrailer t →
      (dropBlanks? (cs ++ t)).bind way = ((dropBlanks? cs).bind way).map (· ++ t)) := by
  intro cs t ht
  unfold dropBlanks?
  cases cs with
  | nil =>
      rw [List.nil_append, goesOn]
      split
      · exact h.stuck _ (ht.dropWhile isBlank)
      · rfl
  | cons c cs =>
      rw [List.cons_append, goesOn, goesOn]
      split
      · rw [← List.cons_append, List.dropWhile_append, Option.bind_some, Option.bind_some]
        split
        · -- all of the text is blank, so the way would start behind it
          rename_i hblank
          rw [List.isEmpty_iff.mp hblank, h.stuck _ (ht.dropWhile isBlank),
            h.stuck _ isTrailer_nil]
          rfl
        · exact h.carries _ t ht
      · rfl

/-- One way behind another, with blanks between them. -/
theorem Enters.andBlanks {first second : List Char → Option (List Char)} (hfirst : Enters first)
    (hsecond : Enters second) :
    Enters fun cs => (first cs).bind fun rest => (dropBlanks? rest).bind second where
  carries cs t ht := by
    rw [hfirst.carries cs t ht]
    cases first cs with
    | none => rfl
    | some rest => exact hsecond.behindBlanks rest t ht
  stuck t ht := by
    rw [hfirst.stuck t ht]
    rfl

theorem Enters.orElse {first second : List Char → Option (List Char)} (hfirst : Enters first)
    (hsecond : Enters second) : Enters fun cs => (first cs).orElse fun _ => second cs where
  carries cs t ht := by
    rw [hfirst.carries cs t ht, hsecond.carries cs t ht]
    cases first cs <;> rfl
  stuck t ht := by
    rw [hfirst.stuck t ht, hsecond.stuck t ht]
    rfl

theorem dropPhrase?_enters {phrase : List String} (h : WellSpelled phrase) :
    Enters (dropPhrase? phrase) := by
  induction phrase with
  | nil => exact absurd rfl h.nonempty
  | cons word words ih =>
      obtain ⟨hword, hwords⟩ := List.forall_mem_cons.mp h.words
      have hfirst := dropKeyword?_enters hword.1 fun k hk => keeps_isLetter (hword.2 k hk)
      cases words with
      | nil => exact hfirst
      | cons next words => exact hfirst.andBlanks (ih ⟨List.cons_ne_nil _ _, hwords⟩)

theorem phrase_isLocal {phrases : List (List String)} (hphrases : phrases ∈ phraseLists) :
    IsLocal fun _ => phraseLength? phrases where
  stays := by
    intro before cs t _ ht
    refine findSome?_congr_mem fun phrase hphrase => ?_
    have henters := dropPhrase?_enters (wellSpelled_of_mem hphrases hphrase)
    rw [henters.carries cs t ht]
    cases dropPhrase? phrase cs with
    | none => rfl
    | some rest =>
        change (if wordEnds (rest ++ t) then _ else none) = if wordEnds rest then _ else none
        rw [wordEnds_trailer ht, List.length_append, List.length_append, Nat.add_sub_add_right]
  within := by
    intro before cs n h
    obtain ⟨phrase, -, rest, -, -, rfl⟩ := exists_of_phraseLength? h
    exact Nat.sub_le _ _

theorem batch_isLocal : IsLocal fun _ => batchLength? where
  stays := by
    intro before cs t _ ht
    have hkeys : Enters (dropKeyword? ['G', 'O']) := by
      refine dropKeyword?_enters (List.cons_ne_nil _ _) fun k hk => keeps_isLetter ?_
      exact (by decide : ∀ k ∈ ['G', 'O'], isKeyLetter k = true) k hk
    have hcount (cs : List Char) := countWhile_trailer keeps_isDecimal ht cs
    rw [batchLength?, batchLength?, hkeys.carries cs t ht]
    cases dropKeyword? ['G', 'O'] cs with
    | none => rfl
    | some rest =>
        cases rest with
        | nil =>
            cases t with
            | nil => rfl
            | cons d t =>
                have hnone : countWhile isDecimal t = 0 :=
                  countWhile_trailer keeps_isDecimal ht.tail []
                change (if isBlank d && 0 < countWhile isDecimal t && _ then _ else none) = none
                rw [hnone, if_neg (by simp)]
        | cons blank digits =>
            change (if _ && 0 < countWhile isDecimal (digits ++ t) &&
                wordEnds ((digits ++ t).drop (countWhile isDecimal (digits ++ t))) then
              some (3 + countWhile isDecimal (digits ++ t)) else none) = _
            rw [hcount, drop_countWhile_trailer, wordEnds_trailer ht]
            rfl
  within := by
    intro before cs n h
    obtain ⟨rest, hkeyword, hfound⟩ := Option.bind_eq_some_iff.mp h
    obtain ⟨front, rfl, hfront⟩ := exists_of_dropKeyword? hkeyword
    cases rest with
    | nil => cases hfound
    | cons blank digits =>
        dsimp only at hfound
        split at hfound
        · have hcount := countWhile_le isDecimal digits
          rw [← Option.some.inj hfound, List.length_append, hfront, List.length_cons]
          simp only [List.length_cons, List.length_nil]
          omega
        · cases hfound

/-- What is found behind the words of a time zone clause. -/
def quotedZone? (cs : List Char) : Option (List Char) :=
  if startsWith ['\''] cs && 0 < countWhile (· != '\'') (cs.drop 1) &&
      goesOn (· == '\'') ((cs.drop 1).drop (countWhile (· != '\'') (cs.drop 1))) then
    some ((cs.drop 1).drop (countWhile (· != '\'') (cs.drop 1) + 1))
  else none

theorem quotedZone?_enters : Enters quotedZone? := by
  have hmark (cs : List Char) {t : List Char} (ht : IsTrailer t) :
      startsWith ['\''] (cs ++ t) = startsWith ['\''] cs :=
    startsWith_trailer (by unfold IsMark; decide) ht cs
  refine ⟨fun cs t ht => ?_, fun t ht => ?_⟩
  · rw [quotedZone?, quotedZone?, hmark cs ht]
    by_cases hopen : startsWith ['\''] cs = true
    · have hinner : ∀ c, isTrailing c = true → (c != '\'') = true := fun c hc =>
        bne_iff_ne.mpr (ne_of_isTrailing hc rfl)
      obtain ⟨hends, hcount⟩ := goesOn_drop_countWhile (q := (· == '\'')) hinner ht (cs.drop 1)
      rw [drop_one_trailer hopen, hends]
      by_cases hclose : goesOn (· == '\'')
          ((cs.drop 1).drop (countWhile (· != '\'') (cs.drop 1))) = true
      · rw [hcount hclose, List.drop_append_of_le_length (lt_length_of_goesOn_drop hclose)]
        split <;> rfl
      · rw [Bool.eq_false_iff.mpr hclose, Bool.and_false, Bool.and_false]
        rfl
    · rw [Bool.eq_false_iff.mpr hopen]
      rfl
  · rw [quotedZone?, show startsWith ['\''] t = false from hmark [] ht]
    rfl

/-- A run ends within a text exactly where something stands behind it. -/
theorem goesOn_drop_countWhile_eq {p q : Char → Bool} (hq : ∀ c, q c = !p c) (cs : List Char) :
    goesOn q (cs.drop (countWhile p cs)) = decide (countWhile p cs < cs.length) := by
  induction cs with
  | nil => rfl
  | cons c cs ih =>
      unfold countWhile at ih ⊢
      rw [List.takeWhile_cons]
      split
      · rw [List.length_cons, List.drop_succ_cons, List.length_cons, ih]
        simp only [Nat.add_lt_add_iff_right]
      · rename_i hc
        rw [List.length_nil, List.drop_zero, goesOn, hq, Bool.eq_false_iff.mpr hc]
        simp

/-- The way to the end of a time zone clause. -/
def throughZone? (cs : List Char) : Option (List Char) :=
  ((dropKeyword? ['A', 'T'] cs).orElse fun _ =>
    dropKeyword? ['W', 'I', 'T', 'H', '\''] cs).bind fun rest =>
      (dropBlanks? rest).bind fun rest => (dropPhrase? ["TIME", "ZONE"] rest).bind fun rest =>
        (dropBlanks? rest).bind quotedZone?

theorem throughZone?_enters : Enters throughZone? := by
  have hquote : Keeps (isLetter '\'') := by
    intro c hc
    rw [Bool.eq_false_iff]
    intro hletter
    exact ne_of_isTrailing hc rfl (eq_of_isLetter_quote hletter)
  have hwith : ∀ k ∈ ['W', 'I', 'T', 'H', '\''], Keeps (isLetter k) := by
    have hletters : ∀ k ∈ ['W', 'I', 'T', 'H', '\''], isKeyLetter k = true ∨ k = '\'' := by
      decide
    intro k hk
    rcases hletters k hk with hletter | rfl
    · exact keeps_isLetter hletter
    · exact hquote
  have hat : ∀ k ∈ ['A', 'T'], Keeps (isLetter k) := fun k hk =>
    keeps_isLetter ((by decide : ∀ k ∈ ['A', 'T'], isKeyLetter k = true) k hk)
  have hphrase : WellSpelled ["TIME", "ZONE"] := ⟨List.cons_ne_nil _ _, by decide⟩
  exact ((dropKeyword?_enters (List.cons_ne_nil _ _) hat).orElse
    (dropKeyword?_enters (List.cons_ne_nil _ _) hwith)).andBlanks
      ((dropPhrase?_enters hphrase).andBlanks quotedZone?_enters)

theorem zoneLength?_eq (cs : List Char) :
    zoneLength? cs = (throughZone? cs).map fun rest => cs.length - rest.length := by
  unfold zoneLength? throughZone?
  rw [Option.map_bind]
  refine Option.bind_congr fun rest _ => ?_
  rw [Function.comp_apply, Option.map_bind]
  refine Option.bind_congr fun rest _ => ?_
  rw [Function.comp_apply, Option.map_bind]
  refine Option.bind_congr fun rest _ => ?_
  rw [Function.comp_apply, Option.map_bind]
  refine Option.bind_congr fun rest _ => ?_
  rw [Function.comp_apply, quotedZone?]
  split
  · rename_i zone _
    have hclose := goesOn_drop_countWhile_eq (p := (· != '\'')) (q := (· == '\''))
      (fun c => (Bool.not_not _).symm) zone
    have hopen : startsWith ['\''] ('\'' :: zone) = true := rfl
    rw [List.drop_one, List.tail_cons, hclose, hopen, Bool.true_and, apply_ite (Option.map _)]
    rfl
  · rename_i hnone
    rw [if_neg]
    · rfl
    · intro hfound
      have hopen := (Bool.and_eq_true_iff.mp (Bool.and_eq_true_iff.mp hfound).1).1
      obtain ⟨zone, hzone⟩ := exists_of_startsWith hopen
      exact hnone zone hzone

theorem zone_isLocal : IsLocal fun _ => zoneLength? where
  stays := by
    intro before cs t _ ht
    rw [zoneLength?_eq, zoneLength?_eq, throughZone?_enters.carries cs t ht, Option.map_map]
    refine congrArg (Option.map · _) (funext fun rest => ?_)
    rw [Function.comp_apply, List.length_append, List.length_append, Nat.add_sub_add_right]
  within := by
    intro before cs n h
    rw [zoneLength?_eq] at h
    obtain ⟨rest, -, rfl⟩ := Option.map_eq_some_iff.mp h
    exact Nat.sub_le _ _

end Keywords

section Names

theorem nameLength?_trailer (ht : IsTrailer t) (cs : List Char) :
    nameLength? (cs ++ t) = nameLength? cs := by
  rw [nameLength?, nameLength?, goesOn_trailer keeps_isNameStart ht]
  split
  · rename_i hname
    rw [drop_one_of_goesOn hname, countWhile_trailer keeps_isWord ht]
  · rfl

theorem nameLength?_le (h : nameLength? cs = some n) : n ≤ cs.length := by
  rw [nameLength?] at h
  split at h
  · rename_i hname
    have hlength := lt_length_of_goesOn_drop (n := 0) hname
    have hcount := countWhile_le isWord (cs.drop 1)
    rw [List.length_drop] at hcount
    rw [← Option.some.inj h]
    omega
  · cases h

theorem pointFollows_trailer (ht : IsTrailer t) (cs : List Char) :
    pointFollows (cs ++ t) = pointFollows cs := by
  cases hrest : cs.dropWhile isBlank with
  | nil =>
      have hbehind : (cs ++ t).dropWhile isBlank = t.dropWhile isBlank := by
        rw [List.dropWhile_append, hrest]
        rfl
      unfold pointFollows
      rw [hrest, hbehind]
      split
      · rename_i hpoint
        have hmem : '.' ∈ t.dropWhile isBlank := by
          rw [hpoint]
          exact List.mem_cons_self
        exact absurd rfl (ne_of_isTrailing (ht.dropWhile isBlank '.' hmem) (rfl : isTrailing '.' = false))
      · rfl
  | cons c rest =>
      have hbehind : (cs ++ t).dropWhile isBlank = c :: (rest ++ t) := by
        rw [List.dropWhile_append, hrest]
        rfl
      unfold pointFollows
      rw [hrest, hbehind]
      by_cases hc : c = '.'
      · rw [hc]
        exact congrArg (!·) (goesOn_trailer keeps_isDecimal ht rest)
      · split
        · rename_i hpoint
          exact absurd (List.cons.inj hpoint).1 hc
        · split
          · rename_i hpoint
            exact absurd (List.cons.inj hpoint).1 hc
          · rfl

theorem qualified_isLocal : IsLocal qualifiedLength? where
  stays := by
    intro before cs t _ ht
    unfold qualifiedLength?
    rw [nameLength?_trailer ht]
    refine Option.bind_congr fun n hname => ?_
    dsimp only
    rw [List.drop_append_of_le_length (nameLength?_le hname), pointFollows_trailer ht,
      goesOn_trailer (keeps_eq rfl) ht]
  within := by
    intro before cs n h
    obtain ⟨m, hname, hfound⟩ := Option.bind_eq_some_iff.mp h
    dsimp only at hfound
    split at hfound
    · rw [← Option.some.inj hfound]
      exact nameLength?_le hname
    · cases hfound

theorem wordLength?_trailer (ht : IsTrailer t) (cs : List Char) :
    wordLength? (cs ++ t) = wordLength? cs := by
  have hgoes : Keeps fun c => isWord c || c == '$' || c == '#' := by
    intro c hc
    have hdollar : (c == '$') = false := keeps_eq (rfl : isTrailing '$' = false) c hc
    have hnumber : (c == '#') = false := keeps_eq (rfl : isTrailing '#' = false) c hc
    dsimp only
    rw [keeps_isWord c hc, hdollar, hnumber]
    rfl
  rw [wordLength?, wordLength?, goesOn_trailer keeps_isWord ht]
  split
  · rename_i hword
    rw [drop_one_of_goesOn hword, countWhile_trailer hgoes ht]
  · rfl

theorem wordLength?_le (h : wordLength? cs = some n) : n ≤ cs.length := by
  rw [wordLength?] at h
  split at h
  · rename_i hword
    have hlength := lt_length_of_goesOn_drop (n := 0) hword
    have hcount := countWhile_le (fun c => isWord c || c == '$' || c == '#') (cs.drop 1)
    rw [List.length_drop] at hcount
    rw [← Option.some.inj h]
    omega
  · cases h

theorem word_isLocal : IsLocal fun _ => wordLength? where
  stays _ cs _ _ ht := wordLength?_trailer ht cs
  within _ _ _ h := wordLength?_le h

theorem division_isLocal : IsLocal divisionLength? where
  stays := by
    intro before cs t _ ht
    unfold divisionLength?
    rw [wordLength?_trailer ht]
    refine Option.bind_congr fun n hword => ?_
    rw [List.take_append_of_le_length (wordLength?_le hword)]
  within := by
    intro before cs n h
    obtain ⟨m, hword, hfound⟩ := Option.bind_eq_some_iff.mp h
    split at hfound
    · rw [← Option.some.inj hfound]
      exact wordLength?_le hword
    · cases hfound

end Names

section Numbers

theorem signLength_trailer (ht : IsTrailer t) (cs : List Char) :
    signLength (cs ++ t) = signLength cs := by
  cases cs with
  | nil =>
      cases t with
      | nil => rfl
      | cons d t => exact signLength_of_ne (ne_of_isTrailing (ht d List.mem_cons_self) rfl)
  | cons c cs =>
      by_cases hc : c = '-'
      · rw [hc]
        rfl
      · rw [List.cons_append, signLength_of_ne hc, signLength_of_ne hc]

theorem signLength_le (cs : List Char) : signLength cs ≤ cs.length := by
  unfold signLength
  split
  · exact Nat.succ_le_succ (Nat.zero_le _)
  · exact Nat.zero_le _

theorem drop_signLength_trailer (cs : List Char) :
    (cs ++ t).drop (signLength cs) = cs.drop (signLength cs) ++ t :=
  List.drop_append_of_le_length (signLength_le cs)

theorem trimRun?_trailer (least count length : Nat) (ht : IsTrailer t) (cs : List Char) :
    trimRun? least count length (cs ++ t) = trimRun? least count length cs := by
  rw [trimRun?, trimRun?, goesOn_trailer keeps_extendsNumber ht]

theorem trimRun?_le {least count length : Nat} (h : trimRun? least count length cs = some n) :
    n ≤ length := by
  rw [trimRun?] at h
  split at h
  · exact (Option.some.inj h).ge
  · split at h
    · rw [← Option.some.inj h]
      exact Nat.sub_le _ _
    · cases h

/-- A digit of a hexadecimal number. -/
def isHexadecimal (c : Char) : Bool :=
  isDecimal c || (65 ≤ c.toUpper.toNat && c.toUpper.toNat ≤ 70)

theorem keeps_isHexadecimal : Keeps isHexadecimal := fun _ =>
  forall_isTrailing (p := fun c => isHexadecimal c = false) (by decide +kernel) (by decide +kernel)

/-- What is found of a hexadecimal number behind its sign. -/
def hexadecimalRest? (sign : Nat) (cs : List Char) : Option Nat :=
  if startsWith ['0'] cs && goesOn (isLetter 'X') (cs.drop 1) &&
      0 < countWhile isHexadecimal ((cs.drop 1).drop 1) then
    some (sign + 2 + countWhile isHexadecimal ((cs.drop 1).drop 1))
  else none

theorem hexadecimalLength?_eq (cs : List Char) :
    hexadecimalLength? cs = hexadecimalRest? (signLength cs) (cs.drop (signLength cs)) := by
  unfold hexadecimalLength?
  dsimp only
  generalize cs.drop (signLength cs) = body
  split
  · rfl
  · rename_i hnone
    rw [hexadecimalRest?, if_neg]
    intro hfound
    obtain ⟨hopen, hletter⟩ := Bool.and_eq_true_iff.mp (Bool.and_eq_true_iff.mp hfound).1
    obtain ⟨later, rfl⟩ := exists_of_startsWith hopen
    cases later with
    | nil => cases hletter
    | cons mark rest => exact hnone mark rest rfl

theorem hexadecimal_isLocal : IsLocal fun _ => hexadecimalLength? where
  stays := by
    intro before cs t _ ht
    rw [hexadecimalLength?_eq, hexadecimalLength?_eq, signLength_trailer ht,
      drop_signLength_trailer, hexadecimalRest?, hexadecimalRest?,
      startsWith_trailer (by unfold IsMark; decide) ht]
    generalize cs.drop (signLength cs) = body
    by_cases hopen : startsWith ['0'] body = true
    · rw [drop_one_trailer hopen, goesOn_trailer (keeps_isLetter rfl) ht]
      by_cases hletter : goesOn (isLetter 'X') (body.drop 1) = true
      · rw [drop_one_of_goesOn hletter, countWhile_trailer keeps_isHexadecimal ht]
      · rw [Bool.eq_false_iff.mpr hletter, Bool.and_false]
        rfl
    · rw [Bool.eq_false_iff.mpr hopen]
      rfl
  within := by
    intro before cs n h
    rw [hexadecimalLength?_eq, hexadecimalRest?] at h
    split at h
    · rename_i hfound
      have hletter := (Bool.and_eq_true_iff.mp (Bool.and_eq_true_iff.mp hfound).1).2
      have hlength := lt_length_of_goesOn_drop hletter
      have hcount := countWhile_le isHexadecimal (((cs.drop (signLength cs)).drop 1).drop 1)
      simp only [List.length_drop] at hlength hcount
      rw [← Option.some.inj h]
      omega
    · cases h

/-- How long the fraction at the front of a text is. -/
def fractionLength (cs : List Char) : Nat :=
  match cs with
  | '.' :: rest =>
      if 0 < countWhile isDecimal rest then countWhile isDecimal rest + 1 else 0
  | _ => 0

theorem fractionLength_eq (cs : List Char) : fractionLength cs =
    if startsWith ['.'] cs && 0 < countWhile isDecimal (cs.drop 1) then
      countWhile isDecimal (cs.drop 1) + 1
    else 0 := by
  unfold fractionLength
  split
  · rename_i rest
    rw [show startsWith ['.'] ('.' :: rest) = true from rfl, Bool.true_and, List.drop_one,
      List.tail_cons]
    simp only [decide_eq_true_eq]
  · rename_i hnone
    rw [if_neg]
    intro hpoint
    obtain ⟨rest, hrest⟩ := exists_of_startsWith (Bool.and_eq_true_iff.mp hpoint).1
    exact hnone rest hrest

theorem fractionLength_trailer (ht : IsTrailer t) (cs : List Char) :
    fractionLength (cs ++ t) = fractionLength cs := by
  rw [fractionLength_eq, fractionLength_eq, startsWith_trailer (by unfold IsMark; decide) ht]
  by_cases hpoint : startsWith ['.'] cs = true
  · rw [drop_one_trailer hpoint, countWhile_trailer keeps_isDecimal ht]
  · rw [Bool.eq_false_iff.mpr hpoint]
    rfl

theorem fractionLength_le (cs : List Char) : fractionLength cs ≤ cs.length := by
  rw [fractionLength_eq]
  split
  · rename_i hpoint
    have hlength := length_le_of_startsWith (Bool.and_eq_true_iff.mp hpoint).1
    have hcount := countWhile_le isDecimal (cs.drop 1)
    rw [List.length_drop] at hcount
    rw [List.length_singleton] at hlength
    omega
  · exact Nat.zero_le _

/-- What is found behind the digits of a number with an exponent. -/
def exponentLength? (whole length : Nat) (cs : List Char) : Option Nat :=
  if 0 < whole && goesOn (isLetter 'E') cs &&
      0 < countWhile isDecimal ((cs.drop 1).drop (signLength (cs.drop 1))) then
    some (length + 1 + signLength (cs.drop 1) +
      countWhile isDecimal ((cs.drop 1).drop (signLength (cs.drop 1))))
  else none

theorem exponentLength?_trailer (whole length : Nat) (ht : IsTrailer t) (cs : List Char) :
    exponentLength? whole length (cs ++ t) = exponentLength? whole length cs := by
  rw [exponentLength?, exponentLength?, goesOn_trailer (keeps_isLetter rfl) ht]
  by_cases hletter : goesOn (isLetter 'E') cs = true
  · rw [drop_one_of_goesOn hletter, signLength_trailer ht, drop_signLength_trailer,
      countWhile_trailer keeps_isDecimal ht]
  · rw [Bool.eq_false_iff.mpr hletter, Bool.and_false, Bool.false_and]
    rfl

theorem exponentLength?_le {whole length : Nat} (h : exponentLength? whole length cs = some n) :
    n ≤ length + cs.length := by
  rw [exponentLength?] at h
  split at h
  · rename_i hfound
    have hletter := (Bool.and_eq_true_iff.mp (Bool.and_eq_true_iff.mp hfound).1).2
    have hlength := lt_length_of_goesOn_drop (n := 0) hletter
    have hsign := signLength_le (cs.drop 1)
    have hcount := countWhile_le isDecimal ((cs.drop 1).drop (signLength (cs.drop 1)))
    rw [List.length_drop] at hsign
    rw [List.length_drop, List.length_drop] at hcount
    rw [← Option.some.inj h]
    omega
  · cases h

theorem scientificLength?_eq (cs : List Char) : scientificLength? cs =
    let body := cs.drop (signLength cs)
    let whole := countWhile isDecimal body
    let fraction := fractionLength (body.drop whole)
    exponentLength? whole (signLength cs + whole + fraction) (body.drop (whole + fraction)) := by
  unfold scientificLength?
  dsimp only
  generalize cs.drop (signLength cs) = body
  generalize countWhile isDecimal body = whole
  split
  · rename_i mark rest hlater
    have hbehind : body.drop (whole + fractionLength (body.drop whole)) = mark :: rest := hlater
    rw [hbehind]
    rfl
  · rename_i hlater
    have hbehind : body.drop (whole + fractionLength (body.drop whole)) = [] := hlater
    rw [hbehind, exponentLength?, goesOn, Bool.and_false]
    rfl

theorem scientific_isLocal : IsLocal fun _ => scientificLength? where
  stays := by
    intro before cs t _ ht
    have hwhole := countWhile_le isDecimal (cs.drop (signLength cs))
    have hfraction := fractionLength_le
      ((cs.drop (signLength cs)).drop (countWhile isDecimal (cs.drop (signLength cs))))
    rw [List.length_drop] at hfraction
    rw [scientificLength?_eq, scientificLength?_eq]
    dsimp only
    rw [signLength_trailer ht, drop_signLength_trailer, countWhile_trailer keeps_isDecimal ht,
      drop_countWhile_trailer, fractionLength_trailer ht,
      List.drop_append_of_le_length (by omega), exponentLength?_trailer _ _ ht]
  within := by
    intro before cs n h
    rw [scientificLength?_eq] at h
    have hle := exponentLength?_le h
    have hwhole := countWhile_le isDecimal (cs.drop (signLength cs))
    have hfraction := fractionLength_le
      ((cs.drop (signLength cs)).drop (countWhile isDecimal (cs.drop (signLength cs))))
    have hsign := signLength_le cs
    simp only [List.length_drop] at hle hwhole hfraction
    omega

/-- What is found of a number with a point behind its first digits. -/
def pointLength? (whole length : Nat) (cs : List Char) : Option Nat :=
  if startsWith ['.'] cs then
    if whole == 0 && countWhile isDecimal (cs.drop 1) == 0 then none
    else trimRun? (if whole == 0 then 1 else 0) (countWhile isDecimal (cs.drop 1))
      (length + 1 + countWhile isDecimal (cs.drop 1))
      ((cs.drop 1).drop (countWhile isDecimal (cs.drop 1)))
  else none

theorem decimalLength?_eq (cs : List Char) : decimalLength? cs =
    let body := cs.drop (signLength cs)
    let whole := countWhile isDecimal body
    pointLength? whole (signLength cs + whole) (body.drop whole) := by
  unfold decimalLength?
  dsimp only
  split
  · rename_i hpoint
    rw [hpoint]
    rfl
  · rename_i hnone
    rw [pointLength?, if_neg]
    intro hpoint
    obtain ⟨rest, hrest⟩ := exists_of_startsWith hpoint
    exact hnone rest hrest

theorem decimal_isLocal : IsLocal fun _ => decimalLength? where
  stays := by
    intro before cs t _ ht
    rw [decimalLength?_eq, decimalLength?_eq]
    dsimp only
    rw [signLength_trailer ht, drop_signLength_trailer, countWhile_trailer keeps_isDecimal ht,
      drop_countWhile_trailer, pointLength?, pointLength?,
      startsWith_trailer (by unfold IsMark; decide) ht]
    split
    · rename_i hpoint
      rw [drop_one_trailer hpoint, countWhile_trailer keeps_isDecimal ht, drop_countWhile_trailer,
        trimRun?_trailer _ _ _ ht]
    · rfl
  within := by
    intro before cs n h
    rw [decimalLength?_eq] at h
    dsimp only at h
    rw [pointLength?] at h
    split at h
    · rename_i hpoint
      split at h
      · cases h
      · have hle := trimRun?_le h
        have hlength := length_le_of_startsWith hpoint
        have hsign := signLength_le cs
        have hcount := countWhile_le isDecimal
          (((cs.drop (signLength cs)).drop (countWhile isDecimal (cs.drop (signLength cs)))).drop 1)
        simp only [List.length_drop, List.length_singleton] at hlength hcount
        omega
    · cases h

theorem integer_isLocal : IsLocal fun _ => integerLength? where
  stays := by
    intro before cs t _ ht
    unfold integerLength?
    dsimp only
    rw [signLength_trailer ht, drop_signLength_trailer, countWhile_trailer keeps_isDecimal ht,
      drop_countWhile_trailer, trimRun?_trailer _ _ _ ht]
  within := by
    intro before cs n h
    unfold integerLength? at h
    dsimp only at h
    split at h
    · cases h
    · have hle := trimRun?_le h
      have hsign := signLength_le cs
      have hcount := countWhile_le isDecimal (cs.drop (signLength cs))
      rw [List.length_drop] at hcount
      omega

theorem IsLocal.orElse {first second : Rule} (hfirst : IsLocal first) (hsecond : IsLocal second) :
    IsLocal fun before cs => (first before cs).orElse fun _ => second before cs where
  stays before cs t hcs ht := by
    rw [hfirst.stays before cs t hcs ht, hsecond.stays before cs t hcs ht]
  within before cs n h := by
    cases hfound : first before cs with
    | none =>
        rw [hfound] at h
        exact hsecond.within before cs n h
    | some m =>
        rw [hfound] at h
        rw [← Option.some.inj h]
        exact hfirst.within before cs m hfound

theorem numeral_isLocal : IsLocal fun _ => numeralLength? :=
  hexadecimal_isLocal.orElse (scientific_isLocal.orElse (decimal_isLocal.orElse integer_isLocal))

end Numbers

section Remarks

/-- A remark up to the end of the line begins here. -/
def opensRemark (cs : List Char) : Bool := startsWith ['-', '-'] cs || startsWith ['#', ' '] cs

theorem lineRemarkLength?_eq (before : Option Char) (cs : List Char) :
    lineRemarkLength? before cs =
      if opensRemark cs then some (2 + lineLength (cs.drop 2)) else none := by
  unfold lineRemarkLength?
  split
  · rfl
  · rfl
  · rename_i hdashes hnumber
    rw [if_neg]
    intro hopens
    rcases Bool.or_eq_true_iff.mp hopens with hstart | hstart
    · obtain ⟨rest, hrest⟩ := exists_of_startsWith hstart
      exact hdashes rest hrest
    · obtain ⟨rest, hrest⟩ := exists_of_startsWith hstart
      exact hnumber rest hrest

theorem exists_of_opensRemark (h : opensRemark cs = true) :
    ∃ first second rest, cs = first :: second :: rest ∧
      ∀ before later, classify before (first :: second :: later) =
        (.remark, 2 + lineLength later) := by
  rcases Bool.or_eq_true_iff.mp h with hstart | hstart
  · obtain ⟨rest, rfl⟩ := exists_of_startsWith hstart
    exact ⟨'-', '-', rest, rfl, fun _ _ => rfl⟩
  · obtain ⟨rest, rfl⟩ := exists_of_startsWith hstart
    exact ⟨'#', ' ', rest, rfl, fun _ _ => rfl⟩

/-- A remark opens behind a text only where a number sign stands at its end and a space behind
that. -/
theorem opensRemark_trailer (hcs : cs ≠ []) (ht : IsTrailer t)
    (hmark : cs = ['#'] → t.head? ≠ some ' ') : opensRemark (cs ++ t) = opensRemark cs := by
  rcases cs with _ | ⟨c, _ | ⟨d, cs⟩⟩
  · exact absurd rfl hcs
  · have hdashes : startsWith ['-', '-'] ([c] ++ t) = startsWith ['-', '-'] [c] :=
      startsWith_trailer (by unfold IsMark; decide) ht [c]
    rw [opensRemark, opensRemark, hdashes]
    refine congrArg (_ || ·) ?_
    cases t with
    | nil => rfl
    | cons d t =>
        by_cases hc : c = '#'
        · have hd : d ≠ ' ' := fun hd => hmark (by rw [hc]) (by rw [hd]; rfl)
          rw [hc]
          exact startsWith_of_ne [] hd
        · rw [startsWith_of_ne [' '] hc]
          exact startsWith_of_ne [' '] hc
  · have hpair (first second : Char) (rest : List Char) :
        startsWith [first, second] (c :: d :: rest) = (first == c && second == d) := by
      rw [startsWith, dropPrefix?, dropPrefix?]
      cases first == c <;> cases second == d <;> rfl
    rw [List.cons_append, List.cons_append, opensRemark, opensRemark, hpair, hpair, hpair, hpair]

theorem lineLength_pos (c : Char) (cs : List Char) : 0 < lineLength (c :: cs) := by
  unfold lineLength
  split
  · rename_i hnil
    cases hnil
  · exact Nat.zero_lt_two
  · split
    · exact Nat.zero_lt_one
    · exact Nat.zero_lt_succ _

/-- A line that is not at its end with a text ends where it did. -/
theorem lineLength_trailer (cs t : List Char) : lineLength (cs ++ t) = lineLength cs ∨
    cs.length ≤ lineLength cs ∧ cs.length ≤ lineLength (cs ++ t) := by
  fun_induction lineLength cs with
  | case1 => exact .inr ⟨le_rfl, Nat.zero_le _⟩
  | case2 => exact .inl rfl
  | case3 c cs hpair hbreak =>
      cases cs with
      | nil => exact .inr ⟨le_rfl, lineLength_pos c t⟩
      | cons d cs =>
          left
          rw [List.cons_append, lineLength, if_pos hbreak]
          rintro tail hc htail
          exact hpair cs hc (by rw [(List.cons.inj htail).1])
  | case4 c cs hpair hbreak ih =>
      have hnext : lineLength (c :: cs ++ t) = lineLength (cs ++ t) + 1 := by
        rw [List.cons_append, lineLength, if_neg hbreak]
        rintro tail rfl _
        exact hbreak rfl
      rw [hnext]
      rcases ih with hsame | ⟨hend, hend'⟩
      · exact .inl (congrArg (· + 1) hsame)
      · exact .inr ⟨Nat.succ_le_succ hend, Nat.succ_le_succ hend'⟩

theorem lineLength_le (cs : List Char) : lineLength cs ≤ cs.length := by
  fun_induction lineLength cs with
  | case1 => exact le_rfl
  | case2 => simp
  | case3 => simp
  | case4 c cs _ _ ih => exact Nat.succ_le_succ ih

end Remarks

section Lexemes

variable {before : Option Char}

/-- Every rule but the one for remarks up to the end of a line finds no end behind a text. -/
theorem isLocal_of_mem_rules : ∀ rule ∈ rules, rule.2 = lineRemarkLength? ∨ IsLocal rule.2 := by
  have hsign : ∀ sign ∈ [":=", "::", "*", "?"], IsLocal (signOf sign) := fun sign hmem =>
    sign_isLocal ((by decide : ∀ sign ∈ [":=", "::", "*", "?"], ∀ c ∈ sign.toList,
      isTrailing c = false) sign hmem)
  have hphrases : ∀ phrases ∈ phraseLists, IsLocal fun _ => phraseLength? phrases :=
    fun _ => phrase_isLocal
  simp only [List.forall_mem_cons, phraseLists] at hsign hphrases
  obtain ⟨hassign, hcolons, hstar, hquestion, -⟩ := hsign
  obtain ⟨hleading, hearly, hview, hmatch, -⟩ := hphrases
  have hcomparators : Keeps fun c => ['<', '>', '=', '~', '!'].contains c := fun _ =>
    forall_isTrailing (p := fun c => ['<', '>', '=', '~', '!'].contains c = false)
      (by decide) (by decide)
  have hoperators : Keeps fun c =>
      ['+', '/', '@', '#', '%', '^', '&', '|', '-'].contains c := fun _ =>
    forall_isTrailing (p := fun c =>
      ['+', '/', '@', '#', '%', '^', '&', '|', '-'].contains c = false) (by decide) (by decide)
  simp only [rules, List.forall_mem_cons]
  exact ⟨.inr dollar_isLocal, .inr blockRemark_isLocal, .inl trivial, .inr blank_isLocal,
    .inr hassign, .inr hcolons, .inr hstar, .inr (quoted_isLocal false rfl),
    .inr (quoted_isLocal false rfl), .inr hquestion, .inr percent_isLocal, .inr variable_isLocal,
    .inr command_isLocal, .inr hleading, .inr temporary_isLocal, .inr qualified_isLocal,
    .inr numeral_isLocal, .inr (quoted_isLocal true rfl), .inr (quoted_isLocal true rfl),
    .inr bracket_isLocal, .inr hearly, .inr batch_isLocal, .inr hview, .inr zone_isLocal,
    .inr hmatch, .inr division_isLocal, .inr word_isLocal, .inr (punctuation_isLocal _),
    .inr arrow_isLocal, .inr (run_isLocal hcomparators), .inr (run_isLocal hoperators),
    fun _ h => absurd h List.not_mem_nil⟩

/-- The first lexeme of a text stays what it is, or it is a remark that goes on up to the end. -/
theorem classify_trailer (hcs : cs ≠ []) (ht : IsTrailer t)
    (hmark : cs = ['#'] → t.head? ≠ some ' ') :
    classify before (cs ++ t) = classify before cs ∨
      ∃ n n', classify before cs = (.remark, n) ∧ classify before (cs ++ t) = (.remark, n') ∧
        cs.length ≤ n ∧ cs.length ≤ n' := by
  by_cases hopens : opensRemark cs = true
  · obtain ⟨first, second, rest, rfl, hremark⟩ := exists_of_opensRemark hopens
    rw [List.cons_append, List.cons_append, hremark, hremark]
    rcases lineLength_trailer rest t with hsame | ⟨hend, hend'⟩
    · exact .inl (by rw [hsame])
    · refine .inr ⟨_, _, rfl, rfl, ?_, ?_⟩
      · rw [List.length_cons, List.length_cons]
        omega
      · rw [List.length_cons, List.length_cons]
        omega
  · left
    have hline : lineRemarkLength? before (cs ++ t) = lineRemarkLength? before cs := by
      rw [lineRemarkLength?_eq, lineRemarkLength?_eq, opensRemark_trailer hcs ht hmark,
        if_neg hopens, if_neg hopens]
    unfold classify
    refine congrArg (Option.getD · _) (findSome?_congr_mem fun rule hrule => ?_)
    rcases isLocal_of_mem_rules rule hrule with hremark | hlocal
    · rw [hremark, hline]
    · rw [hlocal.stays before cs t hcs ht]

theorem classify_le (hcs : cs ≠ []) : (classify before cs).2 ≤ cs.length := by
  unfold classify
  cases hfound : rules.findSome? fun rule => (rule.2 before cs).map fun n => (rule.1, n) with
  | none => exact List.length_pos_iff.mpr hcs
  | some found =>
      obtain ⟨rule, hrule, hfind⟩ := List.exists_of_findSome?_eq_some hfound
      obtain ⟨n, hn, rfl⟩ := Option.map_eq_some_iff.mp hfind
      rcases isLocal_of_mem_rules rule hrule with hremark | hlocal
      · rw [hremark, lineRemarkLength?_eq] at hn
        split at hn
        · rename_i hopens
          obtain ⟨first, second, rest, rfl, -⟩ := exists_of_opensRemark hopens
          have hline := lineLength_le rest
          change some (2 + lineLength rest) = some n at hn
          change n ≤ _
          rw [← Option.some.inj hn, List.length_cons, List.length_cons]
          omega
        · cases hn
      · exact hlocal.within before cs n hn

end Lexemes

end JsonQuery.Sql
