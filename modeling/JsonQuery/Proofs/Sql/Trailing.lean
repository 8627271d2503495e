import JsonQuery.Proofs.Sql.Ends
import Mathlib.Tactic

/-!
Blanks and semicolons behind a text. No rule looks past the end of a text into them, with one
exception: a number sign that a space follows opens a remark. Otherwise the lexemes of the text
stay as they are, save that a remark up to the end of the last line swallows what follows on that
line, and what is behind them are semicolons.
-/

namespace JsonQuery.Sql

open Text

/-- A blank or a semicolon. -/
def isTrailing (c : Char) : Bool := isBlank c || c == ';'

/-- There is nothing but blanks and semicolons. -/
def IsTrailer (t : List Char) : Prop := ∀ c ∈ t, isTrailing c = true

theorem forall_isTrailing {p : Char → Prop} (hblank : ∀ n ∈ blankCodes, p (Char.ofNat n))
    (hsemicolon : p ';') {c : Char} (h : isTrailing c = true) : p c := by
  rw [isTrailing, Bool.or_eq_true, beq_iff_eq] at h
  rcases h with h | rfl
  · exact forall_isBlank hblank h
  · exact hsemicolon

/-- The characters that satisfy `p` are neither blanks nor semicolons. -/
def Keeps (p : Char → Bool) : Prop := ∀ c, isTrailing c = true → p c = false

section Characters

theorem keeps_isWord : Keeps isWord := fun _ =>
  forall_isTrailing (p := fun c => isWord c = false) (by decide +kernel) rfl

theorem keeps_isNameStart : Keeps isNameStart := fun _ =>
  forall_isTrailing (p := fun c => isNameStart c = false) (by decide) rfl

theorem keeps_extendsNumber : Keeps extendsNumber := fun _ =>
  forall_isTrailing (p := fun c => extendsNumber c = false) (by decide) rfl

theorem keeps_isDecimal : Keeps isDecimal := fun _ =>
  forall_isTrailing (p := fun c => isDecimal c = false) (by decide +kernel) rfl

theorem keeps_eq {mark : Char} (h : isTrailing mark = false) : Keeps (· == mark) := by
  intro c hc
  rw [beq_eq_false_iff_ne]
  rintro rfl
  rw [hc] at h
  cases h

theorem ne_of_isTrailing {c mark : Char} (hc : isTrailing c = true)
    (hmark : isTrailing mark = false) : c ≠ mark :=
  beq_eq_false_iff_ne.mp (keeps_eq hmark c hc)

theorem keeps_isLetter {k : Char} (hk : isKeyLetter k = true) : Keeps (isLetter k) := by
  intro c hc
  rw [Bool.eq_false_iff]
  intro hletter
  have hword := keeps_isWord c hc
  rw [(isWord_of_isLetter hk hletter).1] at hword
  cases hword

end Characters

section Walks

variable {p : Char → Bool} {cs t mark : List Char}

theorem IsTrailer.tail {c : Char} (h : IsTrailer (c :: t)) : IsTrailer t :=
  fun d hd => h d (List.mem_cons_of_mem c hd)

theorem goesOn_trailer (hp : Keeps p) (ht : IsTrailer t) (cs : List Char) :
    goesOn p (cs ++ t) = goesOn p cs := by
  cases cs with
  | cons c cs => rfl
  | nil =>
      cases t with
      | nil => rfl
      | cons d t => exact hp d (ht d List.mem_cons_self)

theorem countWhile_trailer (hp : Keeps p) (ht : IsTrailer t) (cs : List Char) :
    countWhile p (cs ++ t) = countWhile p cs := by
  induction cs with
  | nil =>
      cases t with
      | nil => rfl
      | cons d t =>
          have hd : p d = false := hp d (ht d List.mem_cons_self)
          simp [countWhile, hd]
  | cons c cs ih =>
      unfold countWhile at ih ⊢
      rw [List.cons_append, List.takeWhile_cons, List.takeWhile_cons]
      split
      · rw [List.length_cons, List.length_cons, ih]
      · rfl

theorem countWhile_le (p : Char → Bool) (cs : List Char) : countWhile p cs ≤ cs.length :=
  (List.takeWhile_sublist p).length_le

theorem drop_countWhile_trailer (cs : List Char) :
    (cs ++ t).drop (countWhile p cs) = cs.drop (countWhile p cs) ++ t :=
  List.drop_append_of_le_length (countWhile_le p cs)

theorem wordEnds_trailer (ht : IsTrailer t) (cs : List Char) :
    wordEnds (cs ++ t) = wordEnds cs := by
  cases cs with
  | cons c cs => rfl
  | nil =>
      cases t with
      | nil => rfl
      | cons d t =>
          change (!isWord d) = true
          rw [keeps_isWord d (ht d List.mem_cons_self)]
          rfl

/-- The characters of a mark are neither blanks nor semicolons. -/
def IsMark (mark : List Char) : Prop := ∀ c ∈ mark, isTrailing c = false

theorem startsWith_trailer (hmark : IsMark mark) (ht : IsTrailer t) (cs : List Char) :
    startsWith mark (cs ++ t) = startsWith mark cs := by
  induction mark generalizing cs with
  | nil => rfl
  | cons m mark ih =>
      cases cs with
      | nil =>
          cases t with
          | nil => rfl
          | cons d t =>
              exact startsWith_of_ne mark
                (ne_of_isTrailing (ht d List.mem_cons_self) (hmark m List.mem_cons_self))
      | cons c cs =>
          have hrest := ih (fun c hc => hmark c (List.mem_cons_of_mem m hc)) cs
          rw [startsWith, startsWith, List.cons_append, dropPrefix?, dropPrefix?]
          split
          · exact hrest
          · rfl

theorem length_le_of_startsWith (h : startsWith mark cs = true) : mark.length ≤ cs.length := by
  induction mark generalizing cs with
  | nil => exact Nat.zero_le _
  | cons m mark ih =>
      cases cs with
      | nil => cases h
      | cons c cs =>
          rw [startsWith, dropPrefix?] at h
          split at h
          · exact Nat.succ_le_succ (ih h)
          · cases h

theorem throughMark?_eq_none (hne : mark ≠ []) (hmark : IsMark mark) (ht : IsTrailer t) :
    throughMark? mark t = none := by
  have hempty : mark.isEmpty = false := by simpa using hne
  induction t with
  | nil => rw [throughMark?, if_neg (by simp [hempty])]
  | cons d t ih =>
      have hstart : startsWith mark (d :: t) = false := by
        cases mark with
        | nil => exact absurd rfl hne
        | cons m mark => exact startsWith_trailer hmark ht []
      rw [throughMark?, hstart, if_neg Bool.false_ne_true, ih ht.tail]
      rfl

theorem throughMark?_trailer (hne : mark ≠ []) (hmark : IsMark mark) (ht : IsTrailer t)
    (cs : List Char) : throughMark? mark (cs ++ t) = throughMark? mark cs := by
  induction cs with
  | nil =>
      rw [List.nil_append, throughMark?_eq_none hne hmark ht,
        throughMark?_eq_none hne hmark fun _ h => absurd h List.not_mem_nil]
  | cons c cs ih =>
      have hstart : startsWith mark (c :: cs ++ t) = startsWith mark (c :: cs) :=
        startsWith_trailer hmark ht (c :: cs)
      rw [List.cons_append] at hstart ⊢
      rw [throughMark?, throughMark?, hstart, ih]

theorem throughMark?_le {n : Nat} (h : throughMark? mark cs = some n) : n ≤ cs.length := by
  induction cs generalizing n with
  | nil =>
      rw [throughMark?] at h
      split at h
      · exact (Option.some.inj h).ge
      · cases h
  | cons c cs ih =>
      rw [throughMark?] at h
      split at h
      · rename_i hstart
        rw [← Option.some.inj h]
        exact length_le_of_startsWith hstart
      · obtain ⟨m, hm, rfl⟩ := Option.map_eq_some_iff.mp h
        exact Nat.succ_le_succ (ih hm)

theorem closingLength?_eq_none_of_trailer {quote : Char} (escapes : Bool)
    (hquote : isTrailing quote = false) (ht : IsTrailer t) :
    closingLength? quote escapes t = none :=
  closingLength?_eq_none fun hmem => ne_of_isTrailing (ht quote hmem) hquote rfl

theorem closingLength?_trailer {quote : Char} (escapes : Bool) (hquote : isTrailing quote = false)
    (ht : IsTrailer t) (cs : List Char) :
    closingLength? quote escapes (cs ++ t) = closingLength? quote escapes cs := by
  have hnone := closingLength?_eq_none_of_trailer escapes hquote ht
  fun_induction closingLength? quote escapes cs with
  | case1 => exact hnone
  | case2 c hc d tail hd n hn ih | case3 c hc d tail hd hn ih =>
      rw [List.cons_append, List.cons_append, closingLength?, if_pos hc, if_pos hd, ih, hn]
  | case4 c hc d tail hd =>
      rw [List.cons_append, List.cons_append, closingLength?, if_pos hc, if_neg hd]
  | case5 c hc =>
      rw [List.singleton_append, beq_iff_eq.mp hc]
      refine closingLength?_quote ?_
      intro hhead
      exact ne_of_isTrailing (ht quote (List.mem_of_mem_head? hhead)) hquote rfl
  | case6 c hc hback d tail hd n hn ih | case7 c hc hback d tail hd hn ih =>
      rw [List.cons_append, List.cons_append, closingLength?, if_neg hc, if_pos hback, if_pos hd,
        ih, hn]
  | case8 c hc hback d tail hd ih =>
      rw [List.cons_append] at ih
      rw [List.cons_append, List.cons_append, closingLength?, if_neg hc, if_pos hback, if_neg hd,
        ih]
  | case9 c hc hback =>
      rw [List.singleton_append, closingLength?_cons (by simpa using hc), hnone]
      · rfl
      · intro _ hhead
        exact ne_of_isTrailing (ht quote (List.mem_of_mem_head? hhead)) hquote rfl
  | case10 c rest hc hback ih =>
      rw [List.cons_append, closingLength?.eq_def]
      dsimp only
      rw [if_neg hc, if_neg hback, ih]

theorem closingLength?_le {quote : Char} {escapes : Bool} {n : Nat}
    (h : closingLength? quote escapes cs = some n) : n ≤ cs.length := by
  fun_induction closingLength? quote escapes cs generalizing n with
  | case1 | case9 => cases h
  | case2 c _ d tail _ m hm ih | case6 c _ _ d tail _ m hm ih =>
      have hle := ih hm
      rw [← Option.some.inj h, List.length_cons, List.length_cons]
      omega
  | case3 c _ d tail | case4 c _ d tail | case5 c | case7 c _ _ d tail =>
      rw [← Option.some.inj h]
      simp
  | case8 c _ _ d tail _ ih | case10 c tail _ _ ih =>
      obtain ⟨m, hm, rfl⟩ := Option.map_eq_some_iff.mp h
      exact Nat.succ_le_succ (ih hm)

end Walks

theorem findSome?_congr_mem {α β : Type} {f g : α → Option β} {l : List α}
    (h : ∀ x ∈ l, f x = g x) : l.findSome? f = l.findSome? g := by
  induction l with
  | nil => rfl
  | cons x l ih =>
      rw [List.findSome?_cons, List.findSome?_cons, h x List.mem_cons_self,
        ih fun y hy => h y (List.mem_cons_of_mem x hy)]

/-- A rule looks at a text without regard to blanks and semicolons behind it, and what it finds
is part of the text. -/
structure IsLocal (rule : Rule) : Prop where
  stays : ∀ before cs t, cs ≠ [] → IsTrailer t → rule before (cs ++ t) = rule before cs
  within : ∀ before cs n, rule before cs = some n → n ≤ cs.length

section SignRules

theorem blank_isLocal : IsLocal blankLength? where
  stays := by
    intro before cs t hcs ht
    obtain ⟨c, cs, rfl⟩ := List.exists_cons_of_ne_nil hcs
    rfl
  within := by
    intro before cs n h
    cases cs with
    | nil => cases h
    | cons c cs =>
        rw [blankLength?] at h
        split at h
        · rw [← Option.some.inj h]
          exact Nat.succ_le_succ (Nat.zero_le _)
        · cases h

theorem sign_isLocal {sign : String} (hsign : IsMark sign.toList) : IsLocal (signOf sign) where
  stays := by
    intro before cs t _ ht
    rw [signOf, signOf, startsWith_trailer hsign ht]
  within := by
    intro before cs n h
    rw [signOf] at h
    split at h
    · rename_i hstart
      rw [← Option.some.inj h]
      exact length_le_of_startsWith hstart
    · cases h

theorem arrow_isLocal : IsLocal arrowLength? where
  stays := by
    intro before cs t _ ht
    unfold arrowLength?
    refine findSome?_congr_mem fun sign hsign => ?_
    have hall : ∀ sign ∈ [['-', '>', '>'], ['-', '>'], ['#', '>', '>'], ['#', '>'], ['@', '>'],
        ['<', '@'], ['-'], ['#', '-']], ∀ c ∈ sign, isTrailing c = false := by decide
    rw [startsWith_trailer (hall sign hsign) ht]
  within := by
    intro before cs n h
    obtain ⟨sign, -, hsign⟩ := List.exists_of_findSome?_eq_some h
    split at hsign
    · rename_i hstart
      rw [← Option.some.inj hsign]
      exact length_le_of_startsWith hstart
    · cases hsign

theorem run_isLocal {p : Char → Bool} (hp : Keeps p) : IsLocal (runOf p) where
  stays := by
    intro before cs t _ ht
    rw [runOf, runOf, countWhile_trailer hp ht]
  within := by
    intro before cs n h
    rw [runOf] at h
    split at h
    · rw [← Option.some.inj h]
      exact countWhile_le p cs
    · cases h

theorem punctuation_isLocal (p : Char → Bool) :
    IsLocal fun _ cs => if goesOn p cs then some 1 else none where
  stays := by
    intro before cs t hcs ht
    obtain ⟨c, cs, rfl⟩ := List.exists_cons_of_ne_nil hcs
    rfl
  within := by
    intro before cs n h
    cases cs with
    | nil => cases h
    | cons c cs =>
        split at h
        · rw [← Option.some.inj h]
          exact Nat.succ_le_succ (Nat.zero_le _)
        · cases h

theorem quoted_isLocal {quote : Char} (escapes : Bool) (hquote : isTrailing quote = false) :
    IsLocal fun _ => quotedLength? quote escapes where
  stays := by
    intro before cs t hcs ht
    obtain ⟨c, cs, rfl⟩ := List.exists_cons_of_ne_nil hcs
    rw [List.cons_append, quotedLength?, quotedLength?, closingLength?_trailer escapes hquote ht]
  within := by
    intro before cs n h
    cases cs with
    | nil => cases h
    | cons c cs =>
        rw [quotedLength?] at h
        split at h
        · obtain ⟨m, hm, rfl⟩ := Option.map_eq_some_iff.mp h
          exact Nat.succ_le_succ (closingLength?_le hm)
        · cases h

end SignRules

section MarkRules

variable {cs t : List Char} {n : Nat}

theorem exists_of_startsWith {mark : List Char} (h : startsWith mark cs = true) :
    ∃ rest, cs = mark ++ rest := by
  induction mark generalizing cs with
  | nil => exact ⟨cs, rfl⟩
  | cons m mark ih =>
      cases cs with
      | nil => cases h
      | cons c cs =>
          rw [startsWith, dropPrefix?] at h
          split at h
          · rename_i hc
            obtain ⟨rest, rfl⟩ := ih h
            exact ⟨rest, by rw [← beq_iff_eq.mp hc]; rfl⟩
          · cases h

/-- The end of a run of characters that blanks and semicolons would go on with is not moved by
them, as long as something else is looked for behind it. -/
theorem goesOn_drop_countWhile {p q : Char → Bool} (hp : ∀ c, isTrailing c = true → p c = true)
    (ht : IsTrailer t) (cs : List Char) :
    goesOn q ((cs ++ t).drop (countWhile p (cs ++ t))) = goesOn q (cs.drop (countWhile p cs)) ∧
      (goesOn q (cs.drop (countWhile p cs)) = true →
        countWhile p (cs ++ t) = countWhile p cs) := by
  induction cs with
  | nil =>
      have hall : t.takeWhile p = t := List.takeWhile_eq_self_iff.mpr fun c hc => hp c (ht c hc)
      rw [List.nil_append, countWhile, hall, List.drop_length]
      exact ⟨rfl, fun h => absurd h Bool.false_ne_true⟩
  | cons c cs ih =>
      unfold countWhile at ih ⊢
      rw [List.cons_append, List.takeWhile_cons, List.takeWhile_cons]
      by_cases hc : p c = true
      · rw [if_pos hc, if_pos hc, List.length_cons, List.length_cons, List.drop_succ_cons,
          List.drop_succ_cons]
        exact ⟨ih.1, fun h => congrArg (· + 1) (ih.2 h)⟩
      · rw [if_neg hc, if_neg hc]
        exact ⟨rfl, fun _ => rfl⟩

theorem lt_length_of_goesOn_drop {q : Char → Bool} {n : Nat} (h : goesOn q (cs.drop n) = true) :
    n < cs.length := by
  by_contra hle
  rw [List.drop_of_length_le (Nat.not_lt.mp hle)] at h
  cases h

theorem none_isLocal : IsLocal fun _ _ => none where
  stays _ _ _ _ _ := rfl
  within := by
    intro _ _ _ h
    cases h

/-- What a rule finds behind its mark decides what it finds, and where the mark is not there,
another rule decides. -/
theorem isLocal_of_mark {rule other : Rule} (mark : List Char)
    (found : Option Char → List Char → Option Nat) (hmark : IsMark mark)
    (hrule : ∀ before cs, rule before cs =
      if startsWith mark cs then found before (cs.drop mark.length) else other before cs)
    (hstays : ∀ before cs t, IsTrailer t → found before (cs ++ t) = found before cs)
    (hwithin : ∀ before cs n, found before cs = some n → n ≤ cs.length + mark.length)
    (hother : IsLocal other) : IsLocal rule where
  stays := by
    intro before cs t hcs ht
    rw [hrule, hrule, startsWith_trailer hmark ht]
    split
    · rename_i hstart
      rw [List.drop_append_of_le_length (length_le_of_startsWith hstart), hstays _ _ _ ht]
    · exact hother.stays before cs t hcs ht
  within := by
    intro before cs n h
    rw [hrule] at h
    split at h
    · rename_i hstart
      have hle := hwithin _ _ _ h
      have hlength := length_le_of_startsWith hstart
      rw [List.length_drop] at hle
      omega
    · exact hother.within before cs n h

theorem blockRemark_isLocal : IsLocal blockRemarkLength? := by
  refine isLocal_of_mark ['/', '*'] (fun _ cs => (throughMark? ['*', '/'] cs).map (· + 2))
    (by unfold IsMark; decide) ?_ ?_ ?_ none_isLocal
  · intro before cs
    unfold blockRemarkLength?
    split
    · rfl
    · rename_i hne
      rw [if_neg]
      intro hstart
      obtain ⟨rest, rfl⟩ := exists_of_startsWith hstart
      exact hne rest rfl
  · intro before cs t ht
    rw [throughMark?_trailer (List.cons_ne_nil _ _) (by unfold IsMark; decide) ht cs]
  · intro before cs n h
    obtain ⟨m, hm, rfl⟩ := Option.map_eq_some_iff.mp h
    exact Nat.add_le_add_right (throughMark?_le hm) 2

theorem command_isLocal : IsLocal commandLength? := by
  refine isLocal_of_mark ['\\']
    (fun _ cs => if 0 < countWhile isWord cs then some (1 + countWhile isWord cs) else none)
    (by unfold IsMark; decide) ?_ ?_ ?_ none_isLocal
  · intro before cs
    unfold commandLength?
    split
    · rfl
    · rename_i hne
      rw [if_neg]
      intro hstart
      obtain ⟨rest, rfl⟩ := exists_of_startsWith hstart
      exact hne rest rfl
  · intro before cs t ht
    rw [countWhile_trailer keeps_isWord ht]
  · intro before cs n h
    split at h
    · rw [← Option.some.inj h, Nat.add_comm]
      exact Nat.add_le_add_right (countWhile_le isWord cs) 1
    · cases h

theorem variable_isLocal : IsLocal variableLength? where
  stays := by
    intro before cs t hcs ht
    obtain ⟨c, cs, rfl⟩ := List.exists_cons_of_ne_nil hcs
    unfold variableLength?
    dsimp only [List.cons_append]
    rw [countWhile_trailer keeps_isWord ht]
  within := by
    intro before cs n h
    unfold variableLength? at h
    split at h
    · rename_i c rest
      have hle := countWhile_le isWord rest
      dsimp only at h
      split at h
      · rw [← Option.some.inj h, List.length_cons]
        omega
      · cases h
    · cases h

theorem bracket_isLocal : IsLocal bracketLength? := by
  refine isLocal_of_mark ['['] (fun before rest =>
      let count := countWhile (fun c => c != '[' && c != ']') rest
      if !behind (fun c => isWord c || c == ']' || c == ')') before && 0 < count &&
          goesOn (· == ']') (rest.drop count) then some (count + 2)
      else none)
    (by unfold IsMark; decide) ?_ ?_ ?_ none_isLocal
  · intro before cs
    unfold bracketLength?
    split
    · rfl
    · rename_i hne
      rw [if_neg]
      intro hstart
      obtain ⟨rest, rfl⟩ := exists_of_startsWith hstart
      exact hne rest rfl
  · intro before cs t ht
    have hinner : ∀ c, isTrailing c = true → (c != '[' && c != ']') = true := by
      intro c hc
      have hopen := ne_of_isTrailing hc (rfl : isTrailing '[' = false)
      have hclose := ne_of_isTrailing hc (rfl : isTrailing ']' = false)
      simp [hopen, hclose]
    obtain ⟨hends, hcount⟩ := goesOn_drop_countWhile (q := (· == ']')) hinner ht cs
    dsimp only
    rw [hends]
    by_cases hclosed :
        goesOn (· == ']') (cs.drop (countWhile (fun c => c != '[' && c != ']') cs)) = true
    · rw [hcount hclosed]
    · rw [Bool.eq_false_iff.mpr hclosed, Bool.and_false, Bool.and_false]
      rfl
  · intro before cs n h
    dsimp only at h
    split at h
    · rename_i hfound
      have hlt := lt_length_of_goesOn_drop (Bool.and_eq_true_iff.mp hfound).2
      rw [← Option.some.inj h, List.length_singleton]
      omega
    · cases h

theorem drop_one_trailer {mark : Char} (h : startsWith [mark] cs = true) :
    (cs ++ t).drop 1 = cs.drop 1 ++ t :=
  List.drop_append_of_le_length (length_le_of_startsWith h)

/-- What is found behind a percent sign. -/
def percentRest? (cs : List Char) : Option Nat :=
  if startsWith ['('] cs then
    let count := countWhile isWord (cs.drop 1)
    let behind := (cs.drop 1).drop count
    if startsWith [')'] behind && 0 < count && goesOn (isLetter 'S') (behind.drop 1) then
      some (4 + count)
    else none
  else if goesOn (isLetter 'S') cs then some 2
  else none

theorem percentLength?_eq (before : Option Char) (cs : List Char) :
    percentLength? before cs =
      if startsWith ['%'] cs then percentRest? (cs.drop 1) else none := by
  by_cases hstart : startsWith ['%'] cs = true
  · rw [if_pos hstart]
    obtain ⟨rest, rfl⟩ := exists_of_startsWith hstart
    change percentLength? before ('%' :: rest) = percentRest? rest
    by_cases hopen : startsWith ['('] rest = true
    · rw [percentRest?, if_pos hopen]
      obtain ⟨inner, rfl⟩ := exists_of_startsWith hopen
      rw [List.singleton_append, percentLength?, List.drop_one, List.tail_cons]
      dsimp only
      generalize inner.drop (countWhile isWord inner) = later
      split
      · rfl
      · rename_i hnone
        rw [if_neg]
        intro hfound
        obtain ⟨hclose, hletter⟩ := Bool.and_eq_true_iff.mp hfound
        obtain ⟨last, rfl⟩ := exists_of_startsWith (Bool.and_eq_true_iff.mp hclose).1
        cases last with
        | nil => cases hletter
        | cons mark last => exact hnone mark last rfl
    · rw [percentRest?, if_neg hopen]
      cases rest with
      | nil => rfl
      | cons mark rest =>
          rw [percentLength?.eq_2]
          · rfl
          · rintro rfl
            exact hopen rfl
  · rw [if_neg hstart]
    unfold percentLength?
    split
    · exact absurd rfl hstart
    · exact absurd rfl hstart
    · rfl

theorem percent_isLocal : IsLocal percentLength? := by
  have hletter : Keeps (isLetter 'S') := keeps_isLetter rfl
  refine isLocal_of_mark ['%'] (fun _ => percentRest?) (by unfold IsMark; decide)
    percentLength?_eq ?_ ?_ none_isLocal
  · intro _ cs t ht
    have hopen : startsWith ['('] (cs ++ t) = startsWith ['('] cs :=
      startsWith_trailer (by unfold IsMark; decide) ht cs
    unfold percentRest?
    rw [hopen]
    split
    · rename_i hstart
      rw [drop_one_trailer hstart, countWhile_trailer keeps_isWord ht]
      dsimp only
      rw [drop_countWhile_trailer, startsWith_trailer (by unfold IsMark; decide) ht]
      by_cases hclose : startsWith [')'] ((cs.drop 1).drop (countWhile isWord (cs.drop 1))) = true
      · rw [drop_one_trailer hclose, goesOn_trailer hletter ht]
      · rw [Bool.eq_false_iff.mpr hclose]
        rfl
    · rw [goesOn_trailer hletter ht]
  · intro _ cs n h
    unfold percentRest? at h
    split at h
    · rename_i hopen
      dsimp only at h
      split at h
      · rename_i hfound
        have hlong := lt_length_of_goesOn_drop (Bool.and_eq_true_iff.mp hfound).2
        have hlength := length_le_of_startsWith hopen
        rw [← Option.some.inj h]
        rw [List.length_drop, List.length_drop] at hlong
        simp only [List.length_singleton] at hlength ⊢
        omega
      · cases h
    · split at h
      · rename_i hletter
        have hlength := lt_length_of_goesOn_drop (n := 0) hletter
        rw [← Option.some.inj h, List.length_singleton]
        omega
      · cases h

theorem drop_one_of_goesOn {p : Char → Bool} (h : goesOn p cs = true) :
    (cs ++ t).drop 1 = cs.drop 1 ++ t :=
  List.drop_append_of_le_length (lt_length_of_goesOn_drop (n := 0) h)

theorem isTrailing_eq_false_of_isWord {c : Char} (h : isWord c = true) : isTrailing c = false := by
  rw [Bool.eq_false_iff]
  intro htrailing
  rw [keeps_isWord c htrailing] at h
  cases h

/-- The name between dollar signs, or nothing. -/
def dollarTag (cs : List Char) : List Char :=
  if goesOn extendsNumber cs then cs.take (1 + countWhile isWord (cs.drop 1)) else []

theorem dollarTag_trailer (ht : IsTrailer t) (cs : List Char) :
    dollarTag (cs ++ t) = dollarTag cs := by
  rw [dollarTag, dollarTag, goesOn_trailer keeps_extendsNumber ht]
  split
  · rename_i hname
    have hlength := lt_length_of_goesOn_drop (n := 0) hname
    have hcount := countWhile_le isWord (cs.drop 1)
    rw [List.length_drop] at hcount
    rw [drop_one_of_goesOn hname, countWhile_trailer keeps_isWord ht,
      List.take_append_of_le_length (by omega)]
  · rfl

theorem isTrailing_of_mem_dollarTag {c : Char} (h : c ∈ dollarTag cs) : isTrailing c = false := by
  rw [dollarTag] at h
  split at h
  · rename_i hname
    cases cs with
    | nil => cases hname
    | cons first rest =>
        rw [Nat.add_comm, List.take_succ_cons, List.drop_one, List.tail_cons, countWhile] at h
        rcases List.mem_cons.mp h with rfl | hrest
        · rw [Bool.eq_false_iff]
          intro htrailing
          rw [goesOn, keeps_extendsNumber c htrailing] at hname
          cases hname
        · have hprefix := List.prefix_iff_eq_take.mp (List.takeWhile_prefix isWord (l := rest))
          rw [← hprefix] at hrest
          exact isTrailing_eq_false_of_isWord (List.mem_takeWhile_imp hrest)
  · cases h

/-- What is found behind a dollar sign. -/
def dollarRest? (before : Option Char) (cs : List Char) : Option Nat :=
  if behind (fun c => isWord c || c == '"' || c == '$') before then none
  else if startsWith ['$'] (cs.drop (dollarTag cs).length) then
    (throughMark? ('$' :: dollarTag cs ++ ['$']) ((cs.drop (dollarTag cs).length).drop 1)).map
      (· + ('$' :: dollarTag cs ++ ['$']).length)
  else none

theorem dollarLength?_eq (before : Option Char) (cs : List Char) :
    dollarLength? before cs =
      if startsWith ['$'] cs then dollarRest? before (cs.drop 1) else none := by
  by_cases hstart : startsWith ['$'] cs = true
  · rw [if_pos hstart]
    obtain ⟨rest, rfl⟩ := exists_of_startsWith hstart
    rw [List.singleton_append, List.drop_one, List.tail_cons, dollarLength?, dollarRest?]
    split
    · rfl
    · rw [dollarTag]
      dsimp only
      generalize rest.drop _ = later
      split
      · rfl
      · rename_i hnone
        rw [if_neg]
        intro hclose
        obtain ⟨last, rfl⟩ := exists_of_startsWith hclose
        exact hnone last rfl
  · rw [if_neg hstart]
    unfold dollarLength?
    split
    · exact absurd rfl hstart
    · rfl

theorem dollar_isLocal : IsLocal dollarLength? := by
  refine isLocal_of_mark ['$'] dollarRest? (by unfold IsMark; decide) dollarLength?_eq ?_ ?_
    none_isLocal
  · intro before cs t ht
    have htag : (dollarTag cs).length ≤ cs.length := by
      rw [dollarTag]
      split
      · exact List.length_take_le' _ _
      · exact Nat.zero_le _
    have hmark : IsMark ('$' :: dollarTag cs ++ ['$']) := by
      intro c hc
      rw [List.cons_append, List.mem_cons, List.mem_append, List.mem_singleton] at hc
      rcases hc with rfl | hc | rfl
      · rfl
      · exact isTrailing_of_mem_dollarTag hc
      · rfl
    rw [dollarRest?, dollarRest?, dollarTag_trailer ht, List.drop_append_of_le_length htag,
      startsWith_trailer (by unfold IsMark; decide) ht]
    split
    · rfl
    · split
      · rename_i hclose
        rw [drop_one_trailer hclose, throughMark?_trailer
          (List.append_ne_nil_of_right_ne_nil _ (List.cons_ne_nil _ _)) hmark ht]
      · rfl
  · intro before cs n h
    rw [dollarRest?] at h
    split at h
    · cases h
    · split at h
      · rename_i hclose
        obtain ⟨m, hm, rfl⟩ := Option.map_eq_some_iff.mp h
        have hbody := throughMark?_le hm
        have hlength := length_le_of_startsWith hclose
        simp only [List.length_drop, List.length_cons, List.length_append,
          List.cons_append] at hbody hlength ⊢
        omega
      · cases h

/-- What is found behind a mark of so many characters before a name. -/
def nameBehind? (mark : Nat) (cs : List Char) : Option Nat :=
  if goesOn isNameStart cs && 0 < countWhile isWord (cs.drop 1) then
    some (mark + 1 + countWhile isWord (cs.drop 1))
  else none

theorem nameBehind?_trailer (mark : Nat) (cs : List Char) (ht : IsTrailer t) :
    nameBehind? mark (cs ++ t) = nameBehind? mark cs := by
  rw [nameBehind?, nameBehind?, goesOn_trailer keeps_isNameStart ht]
  by_cases hname : goesOn isNameStart cs = true
  · rw [drop_one_of_goesOn hname, countWhile_trailer keeps_isWord ht]
  · rw [Bool.eq_false_iff.mpr hname]
    rfl

theorem nameBehind?_le {mark : Nat} (h : nameBehind? mark cs = some n) :
    n ≤ cs.length + mark := by
  rw [nameBehind?] at h
  split at h
  · rename_i hname
    have hlength := lt_length_of_goesOn_drop (n := 0) (Bool.and_eq_true_iff.mp hname).1
    have hcount := countWhile_le isWord (cs.drop 1)
    rw [List.length_drop] at hcount
    rw [← Option.some.inj h]
    omega
  · cases h

theorem nameBehind_isLocal {other : Rule} (mark : List Char) (hmark : IsMark mark)
    (hother : IsLocal other) : IsLocal fun before cs =>
      if startsWith mark cs then nameBehind? mark.length (cs.drop mark.length)
      else other before cs :=
  isLocal_of_mark mark (fun _ => nameBehind? mark.length) hmark (fun _ _ => rfl)
    (fun _ cs _ ht => nameBehind?_trailer mark.length cs ht) (fun _ _ _ h => nameBehind?_le h)
    hother

theorem temporaryLength?_eq : temporaryLength? = fun _ cs =>
    if startsWith ['@'] cs then nameBehind? 1 (cs.drop 1)
    else if startsWith ['#', '#'] cs then nameBehind? 2 (cs.drop 2)
    else if startsWith ['#'] cs then nameBehind? 1 (cs.drop 1)
    else none := by
  funext before cs
  split
  · rename_i hstart
    obtain ⟨rest, rfl⟩ := exists_of_startsWith hstart
    rfl
  · rename_i hat
    split
    · rename_i hstart
      obtain ⟨rest, rfl⟩ := exists_of_startsWith hstart
      rfl
    · rename_i htwo
      split
      · rename_i hstart
        obtain ⟨rest, rfl⟩ := exists_of_startsWith hstart
        unfold temporaryLength?
        dsimp only
        split
        · rename_i hfront
          cases hfront
        · rename_i hfront
          rw [hfront] at htwo
          exact absurd rfl htwo
        · rfl
        · rename_i hnone
          exact absurd rfl (hnone rest)
      · rename_i hone
        unfold temporaryLength?
        dsimp only
        split
        · exact absurd rfl hat
        · exact absurd rfl htwo
        · exact absurd rfl hone
        · rfl

theorem temporary_isLocal : IsLocal temporaryLength? := by
  rw [temporaryLength?_eq]
  exact nameBehind_isLocal ['@'] (by unfold IsMark; decide)
    (nameBehind_isLocal ['#', '#'] (by unfold IsMark; decide)
      (nameBehind_isLocal ['#'] (by unfold IsMark; decide) none_isLocal))

end MarkRules

end JsonQuery.Sql
