import JsonQuery.Proofs.Sql.Piece
import Mathlib.Tactic

/-!
What lexemes begin and end with. A lexeme of several words is found by a rule whose keywords,
names and quoted zones end in no blank, and a blank at the front of a text is found by the rule
for blanks before any of them. So the blanks of such a lexeme stand between its words. A quoted
lexeme begins with its quote, and a remark with its mark.
-/

namespace JsonQuery.Sql

open Text

section Rules

variable {before : Option Char} {cs : List Char} {kind : LexemeKind}

/-- What is found by a rule is found by one of its kind. -/
theorem exists_rule (hkind : (classify before cs).1 = kind) (hother : kind ≠ .other) :
    ∃ rule ∈ rules.filter fun rule => rule.1 == kind,
      rule.2 before cs = some (classify before cs).2 := by
  unfold classify at hkind ⊢
  cases hfound : rules.findSome? fun rule =>
      (rule.2 before cs).map fun length => (rule.1, length) with
  | none =>
      rw [hfound] at hkind
      exact absurd hkind.symm hother
  | some found =>
      rw [hfound] at hkind
      obtain ⟨rule, hrule, hfind⟩ := List.exists_of_findSome?_eq_some hfound
      obtain ⟨n, hn, rfl⟩ := Option.map_eq_some_iff.mp hfind
      exact ⟨rule, List.mem_filter.mpr ⟨hrule, beq_iff_eq.mpr hkind⟩, hn⟩

theorem spaceRules : rules.filter (fun rule => rule.1 == .space) = [(.space, blankLength?)] := rfl

theorem remarkRules : rules.filter (fun rule => rule.1 == .remark) =
    [(.remark, blockRemarkLength?), (.remark, lineRemarkLength?)] := rfl

theorem quotedRules : rules.filter (fun rule => rule.1 == .quoted) =
    [(.quoted, fun _ => quotedLength? '\x60' false), (.quoted, fun _ => quotedLength? '\'' true),
      (.quoted, fun _ => quotedLength? '"' true)] := rfl

theorem wordsRules : rules.filter (fun rule => rule.1 == .words) =
    [(.words, fun _ => phraseLength? leadingKeywords), (.words, qualifiedLength?),
      (.words, fun _ => phraseLength? earlyPhrases), (.words, fun _ => batchLength?),
      (.words, fun _ => phraseLength? viewPhrases), (.words, fun _ => zoneLength?),
      (.words, fun _ => phraseLength? matchPhrases), (.words, fun _ => wordLength?)] := rfl

end Rules

section Keywords

variable {cs rest : List Char} {ks : List Char}

theorem exists_of_dropKeyword? (h : dropKeyword? ks cs = some rest) :
    ∃ front, cs = front ++ rest ∧ front.length = ks.length := by
  induction ks generalizing cs with
  | nil => exact ⟨[], Option.some.inj h, rfl⟩
  | cons k ks ih =>
      cases cs with
      | nil => cases h
      | cons c cs =>
          rw [dropKeyword?] at h
          split at h
          · obtain ⟨front, rfl, hlength⟩ := ih h
            exact ⟨c :: front, rfl, congrArg (· + 1) hlength⟩
          · cases h

/-- A keyword ends with a letter of a word. -/
theorem exists_letter_of_dropKeyword? (hne : ks ≠ []) (hkeys : ∀ k ∈ ks, isKeyLetter k = true)
    (h : dropKeyword? ks cs = some rest) : ∃ c, (c :: rest) <:+ cs ∧ isWord c = true := by
  obtain ⟨front, k, rfl⟩ := (List.eq_nil_or_concat' ks).resolve_left hne
  obtain ⟨c, hdrop, hletter⟩ := dropKeyword?_concat h
  have hkey : isKeyLetter k = true := hkeys k (by simp)
  exact ⟨c, suffix_of_dropKeyword? hdrop, (isWord_of_isLetter hkey hletter).1⟩

/-- A phrase ends with a letter of its last word. -/
theorem WellSpelled.exists_last {phrase : List String} (hphrase : WellSpelled phrase)
    (h : dropPhrase? phrase cs = some rest) : ∃ c, (c :: rest) <:+ cs ∧ isWord c = true := by
  induction phrase generalizing cs with
  | nil => exact absurd rfl hphrase.nonempty
  | cons word words ih =>
      obtain ⟨hword, hwords⟩ := List.forall_mem_cons.mp hphrase.words
      cases words with
      | nil => exact exists_letter_of_dropKeyword? hword.1 hword.2 h
      | cons next words =>
          obtain ⟨behind, hbehind, hlater⟩ := Option.bind_eq_some_iff.mp h
          obtain ⟨behind', hblanks, hrest⟩ := Option.bind_eq_some_iff.mp hlater
          obtain ⟨c, hsuffix, hc⟩ := ih ⟨List.cons_ne_nil _ _, hwords⟩ hrest
          refine ⟨c, hsuffix.trans ?_, hc⟩
          exact (suffix_of_dropBlanks? hblanks).trans (suffix_of_dropKeyword? hbehind)

end Keywords

section Ends

variable {cs rest : List Char} {c : Char} {n : Nat} {p : Char → Bool}

/-- So many characters at the front of a text end with one that is no blank. -/
def EndsFull (cs : List Char) (n : Nat) : Prop :=
  ∃ front c rest, cs = front ++ c :: rest ∧ isBlank c = false ∧ n = front.length + 1

theorem endsFull_of_suffix (h : (c :: rest) <:+ cs) (hc : isBlank c = false) :
    EndsFull cs (cs.length - rest.length) := by
  obtain ⟨front, rfl⟩ := h
  refine ⟨front, c, rest, rfl, hc, ?_⟩
  rw [List.length_append, List.length_cons]
  omega

theorem endsFull_of_run (hp : ∀ c, p c = true → isBlank c = false) (front : List Char)
    (hrun : 0 < countWhile p rest) :
    EndsFull (front ++ rest) (front.length + countWhile p rest) := by
  have hne : rest.takeWhile p ≠ [] := List.ne_nil_of_length_pos hrun
  obtain ⟨run, c, hconcat⟩ := (List.eq_nil_or_concat' _).resolve_left hne
  have hmem : c ∈ rest.takeWhile p := by simp [hconcat]
  have hc : p c = true := List.mem_takeWhile_imp hmem
  have hsplit : rest = run ++ c :: rest.dropWhile p := by
    rw [List.append_cons, ← hconcat]
    exact List.takeWhile_append_dropWhile.symm
  refine ⟨front ++ run, c, rest.dropWhile p, ?_, hp c hc, ?_⟩
  · rw [List.append_assoc, ← hsplit]
  · rw [countWhile, hconcat, List.length_append, List.length_append]
    rfl

/-- Characters of a sort behind a first one end with one of them or with the first. -/
theorem endsFull_cons (hp : ∀ c, p c = true → isBlank c = false) (hc : isBlank c = false)
    (rest : List Char) : EndsFull (c :: rest) (1 + countWhile p rest) := by
  by_cases hrun : countWhile p rest = 0
  · exact ⟨[], c, rest, rfl, hc, by rw [hrun]; rfl⟩
  · exact endsFull_of_run hp [c] (Nat.pos_of_ne_zero hrun)

theorem endsFull_phrase {phrases : List (List String)} (hphrases : phrases ∈ phraseLists)
    (h : phraseLength? phrases cs = some n) : EndsFull cs n := by
  obtain ⟨phrase, hphrase, rest, hdrop, -, rfl⟩ := exists_of_phraseLength? h
  obtain ⟨c, hsuffix, hc⟩ := (wellSpelled_of_mem hphrases hphrase).exists_last hdrop
  exact endsFull_of_suffix hsuffix (isBlank_eq_false_of_isWord hc)

theorem isBlank_eq_false_of_isNameStart (h : isNameStart c = true) : isBlank c = false := by
  rw [Bool.eq_false_iff]
  intro hblank
  have hextends := extendsNumber_eq_false_of_isBlank hblank
  rw [extendsNumber, h] at hextends
  exact absurd hextends (by simp)

theorem endsFull_qualified {before : Option Char} (h : qualifiedLength? before cs = some n) :
    EndsFull cs n := by
  obtain ⟨m, hname, hif⟩ := Option.bind_eq_some_iff.mp h
  dsimp only at hif
  split at hif
  · rw [← Option.some.inj hif]
    unfold nameLength? at hname
    split at hname
    · rename_i hstart
      cases cs with
      | nil => nomatch hstart
      | cons c cs =>
          rw [← Option.some.inj hname]
          exact endsFull_cons (fun _ => isBlank_eq_false_of_isWord)
            (isBlank_eq_false_of_isNameStart hstart) cs
    · nomatch hname
  · nomatch hif

theorem endsFull_word (h : wordLength? cs = some n) : EndsFull cs n := by
  unfold wordLength? at h
  split at h
  · rename_i hstart
    cases cs with
    | nil => nomatch hstart
    | cons c cs =>
        rw [← Option.some.inj h]
        refine endsFull_cons ?_ (isBlank_eq_false_of_isWord hstart) cs
        intro d hd
        simp only [Bool.or_eq_true, beq_iff_eq] at hd
        rcases hd with (hword | rfl) | rfl
        · exact isBlank_eq_false_of_isWord hword
        · rfl
        · rfl
  · nomatch h

theorem endsFull_batch (h : batchLength? cs = some n) : EndsFull cs n := by
  obtain ⟨rest, hdrop, hcount⟩ := Option.bind_eq_some_iff.mp h
  obtain ⟨front, rfl, hlength⟩ := exists_of_dropKeyword? hdrop
  cases rest with
  | nil => nomatch hcount
  | cons blank digits =>
      dsimp only at hcount
      split at hcount
      · rename_i hdigits
        simp only [Bool.and_eq_true, decide_eq_true_eq] at hdigits
        have hfull := endsFull_of_run (fun _ => isBlank_eq_false_of_isDecimal)
          (front ++ [blank]) hdigits.1.2
        rw [← Option.some.inj hcount]
        rw [List.append_assoc, List.length_append, hlength] at hfull
        exact hfull
      · nomatch hcount

/-- Behind a run that ends before the text does stands a character of another sort. -/
theorem exists_behind_run (h : countWhile p cs < cs.length) :
    ∃ front c rest, cs = front ++ c :: rest ∧ p c = false ∧ front.length = countWhile p cs := by
  have hsplit : cs.takeWhile p ++ cs.dropWhile p = cs := List.takeWhile_append_dropWhile
  cases hrest : cs.dropWhile p with
  | nil =>
      rw [hrest, List.append_nil] at hsplit
      rw [countWhile, hsplit] at h
      exact absurd h (Nat.lt_irrefl _)
  | cons c rest =>
      rw [hrest] at hsplit
      have hc := List.head?_dropWhile_not p cs
      rw [hrest] at hc
      exact ⟨cs.takeWhile p, c, rest, hsplit.symm, hc, rfl⟩

theorem endsFull_zone (h : zoneLength? cs = some n) : EndsFull cs n := by
  unfold zoneLength? at h
  obtain ⟨behindWord, hword, h⟩ := Option.bind_eq_some_iff.mp h
  obtain ⟨phrase, hblanks, h⟩ := Option.bind_eq_some_iff.mp h
  obtain ⟨behindPhrase, hphrase, h⟩ := Option.bind_eq_some_iff.mp h
  obtain ⟨quoted, hblanks', h⟩ := Option.bind_eq_some_iff.mp h
  have hbehindWord : behindWord <:+ cs := by
    cases hat : dropKeyword? ['A', 'T'] cs with
    | some rest =>
        rw [hat] at hword
        exact Option.some.inj hword ▸ suffix_of_dropKeyword? hat
    | none =>
        rw [hat] at hword
        exact suffix_of_dropKeyword? hword
  have hzone : WellSpelled ["TIME", "ZONE"] := ⟨List.cons_ne_nil _ _, by decide +kernel⟩
  obtain ⟨e, hend, -⟩ := hzone.exists_last hphrase
  -- The zone ends with the next quote behind the one that opens it.
  have hquoted : quoted <:+ cs := (suffix_of_dropBlanks? hblanks').trans
    ((List.suffix_cons e behindPhrase).trans
      (hend.trans ((suffix_of_dropBlanks? hblanks).trans hbehindWord)))
  split at h
  · rename_i zone
    dsimp only at h
    split at h
    · rename_i hcount
      simp only [Bool.and_eq_true, decide_eq_true_eq] at hcount
      obtain ⟨front, c, rest, hzone, hc, hlength⟩ := exists_behind_run hcount.2
      have hquote : c = '\'' := by simpa using hc
      have hdrop : zone.drop (front.length + 1) = rest := by simp [hzone]
      rw [← Option.some.inj h, ← hlength, hdrop]
      refine endsFull_of_suffix (c := c) ?_ (by rw [hquote]; rfl)
      refine List.IsSuffix.trans ?_ ((List.suffix_cons _ _).trans hquoted)
      rw [hzone]
      exact List.suffix_append front (c :: rest)
    · nomatch h
  · nomatch h

end Ends

section Lexemes

variable {before : Option Char} {start : Nat} {cs : List Char} {l : Lexeme}

theorem endsFull_of_words (h : (classify before cs).1 = .words) :
    EndsFull cs (classify before cs).2 := by
  obtain ⟨rule, hrule, hfound⟩ := exists_rule h (by decide)
  have hphrase : ∀ phrases ∈ phraseLists, ∀ n, phraseLength? phrases cs = some n → EndsFull cs n :=
    fun _ hphrases _ => endsFull_phrase hphrases
  simp only [phraseLists, List.forall_mem_cons] at hphrase
  obtain ⟨hleading, hearly, hview, hmatch, -⟩ := hphrase
  rw [wordsRules] at hrule
  simp only [List.mem_cons, List.not_mem_nil, or_false] at hrule
  rcases hrule with rfl | rfl | rfl | rfl | rfl | rfl | rfl | rfl
  · exact hleading _ hfound
  · exact endsFull_qualified hfound
  · exact hearly _ hfound
  · exact endsFull_batch hfound
  · exact hview _ hfound
  · exact endsFull_zone hfound
  · exact hmatch _ hfound
  · exact endsFull_word hfound

/-- A lexeme of a text is as long as a rule says that found it, or one character. -/
theorem exists_found_of_mem (h : l ∈ lexemesAt before start cs) :
    ∃ behind c rest, (classify behind (c :: rest)).1 = l.kind ∧
      l.raw = c :: rest.take ((classify behind (c :: rest)).2 - 1) := by
  obtain ⟨behind, front, rest, -, hrest, -, hl⟩ := eq_firstLexeme_of_mem h
  obtain ⟨c, rest, rfl⟩ := List.exists_cons_of_ne_nil hrest
  rw [hl]
  exact ⟨behind, c, rest, rfl, raw_firstLexeme _ _ _ _⟩

/-- A lexeme of words begins with a character that is no blank, and ends with one. -/
theorem full_of_words (h : l ∈ lexemesAt before start cs) (hwords : l.kind = .words) :
    (∃ c tail, l.raw = c :: tail ∧ isBlank c = false) ∧
      ∃ front c, l.raw = front ++ [c] ∧ isBlank c = false := by
  obtain ⟨behind, first, tail, hkind, hraw⟩ := exists_found_of_mem h
  rw [hwords] at hkind
  rw [hraw]
  constructor
  · refine ⟨first, _, rfl, ?_⟩
    rw [Bool.eq_false_iff]
    intro hblank
    rw [classify_blank behind tail hblank] at hkind
    nomatch hkind
  · obtain ⟨front, c, rest, hsplit, hc, hn⟩ := endsFull_of_words hkind
    refine ⟨front, c, ?_, hc⟩
    rw [← List.take_succ_cons, hn, hsplit, List.append_cons, List.take_left' (by simp)]

theorem blank_of_space (h : l ∈ lexemesAt before start cs) (hspace : l.kind = .space) :
    ∃ c, l.raw = [c] ∧ isBlank c = true := by
  obtain ⟨behind, first, tail, hkind, hraw⟩ := exists_found_of_mem h
  rw [hspace] at hkind
  obtain ⟨rule, hrule, hfound⟩ := exists_rule hkind (by decide)
  rw [spaceRules] at hrule
  obtain rfl := List.mem_singleton.mp hrule
  unfold blankLength? at hfound
  dsimp only at hfound
  split at hfound
  · rename_i hblank
    refine ⟨first, ?_, hblank⟩
    rw [hraw, ← Option.some.inj hfound]
    rfl
  · nomatch hfound

/-- The marks a remark begins with. -/
def remarkMarks : List (List Char) := [['/', '*'], ['-', '-'], ['#', ' ']]

theorem exists_mark_of_remark (h : l ∈ lexemesAt before start cs) (hremark : l.kind = .remark) :
    ∃ mark ∈ remarkMarks, mark <+: l.raw := by
  obtain ⟨behind, first, tail, hkind, hraw⟩ := exists_found_of_mem h
  rw [hremark] at hkind
  obtain ⟨rule, hrule, hfound⟩ := exists_rule hkind (by decide)
  generalize (classify behind (first :: tail)).2 = n at hraw hfound
  -- A rule for remarks asks for the two characters of a mark and counts them.
  have hmark {second : Char} {rest : List Char} (htail : tail = second :: rest) (hn : 2 ≤ n)
      (hmem : [first, second] ∈ remarkMarks) : ∃ mark ∈ remarkMarks, mark <+: l.raw := by
    refine ⟨[first, second], hmem, rest.take (n - 2), ?_⟩
    obtain ⟨m, rfl⟩ := Nat.exists_eq_add_of_le' hn
    rw [hraw, htail]
    rfl
  rw [remarkRules] at hrule
  simp only [List.mem_cons, List.not_mem_nil, or_false] at hrule
  rcases hrule with rfl | rfl
  · dsimp only [blockRemarkLength?] at hfound
    split at hfound
    next hfront =>
      obtain ⟨rfl, htail⟩ := List.cons.inj hfront
      obtain ⟨m, -, rfl⟩ := Option.map_eq_some_iff.mp hfound
      exact hmark htail (Nat.le_add_left 2 m) (by decide)
    next => nomatch hfound
  · dsimp only [lineRemarkLength?] at hfound
    split at hfound
    next hfront =>
      obtain ⟨rfl, htail⟩ := List.cons.inj hfront
      exact hmark htail (by rw [← Option.some.inj hfound]; omega) (by decide)
    next hfront =>
      obtain ⟨rfl, htail⟩ := List.cons.inj hfront
      exact hmark htail (by rw [← Option.some.inj hfound]; omega) (by decide)
    next => nomatch hfound

/-- The marks a quoted lexeme stands between. -/
def quoteMarks : List Char := ['\'', '"', '\x60']

theorem mem_quoteMarks_of_quoted (h : l ∈ lexemesAt before start cs) (hquoted : l.kind = .quoted) :
    ∃ quote tail, l.raw = quote :: tail ∧ quote ∈ quoteMarks := by
  obtain ⟨behind, first, tail, hkind, hraw⟩ := exists_found_of_mem h
  rw [hquoted] at hkind
  obtain ⟨rule, hrule, hfound⟩ := exists_rule hkind (by decide)
  have hfirst {quote : Char} {escapes : Bool} {n : Nat} (hquote : quote ∈ quoteMarks)
      (h : quotedLength? quote escapes (first :: tail) = some n) : first ∈ quoteMarks := by
    rw [quotedLength?] at h
    split at h
    · rename_i hmark
      rwa [beq_iff_eq.mp hmark]
    · cases h
  refine ⟨first, _, hraw, ?_⟩
  rw [quotedRules] at hrule
  simp only [List.mem_cons, List.not_mem_nil, or_false] at hrule
  rcases hrule with rfl | rfl | rfl
  · exact hfirst (by decide) hfound
  · exact hfirst (by decide) hfound
  · exact hfirst (by decide) hfound

end Lexemes

end JsonQuery.Sql
