import JsonQuery.Proofs.Sql.Lexing
import Mathlib.Tactic

/-!
What the rules find at the front of a word. Every character a rule looks for by itself, such as
a quote or a bracket, is none of a word, so only the rules for names and keywords can apply. A
keyword of several words reaches over the blanks between them, and ends where one of the words
ends.
-/

namespace JsonQuery.Sql

open Text

section Characters

variable {c k : Char}

/-- What is said of the characters of a list is decided by going through the list, and not through
all characters there are. -/
instance (priority := high) decidableForallMem (cs : List Char) (p : Char → Prop)
    [DecidablePred p] : Decidable (∀ c ∈ cs, p c) := List.decidableBAll p cs

/-- The code points of white space. -/
def blankCodes : List Nat :=
  [9, 10, 11, 12, 13, 28, 29, 30, 31, 32, 0x85, 0xA0, 0x1680, 0x2000, 0x2001, 0x2002, 0x2003,
    0x2004, 0x2005, 0x2006, 0x2007, 0x2008, 0x2009, 0x200A, 0x2028, 0x2029, 0x202F, 0x205F, 0x3000]

theorem mem_blankCodes (h : isBlank c = true) : c.toNat ∈ blankCodes := by
  simp only [isBlank, Bool.or_eq_true, Bool.and_eq_true, decide_eq_true_eq, beq_iff_eq] at h
  simp only [blankCodes, List.mem_cons, List.not_mem_nil, or_false]
  omega

/-- What holds of every code point of white space holds of every blank. -/
theorem forall_isBlank {p : Char → Prop} (hp : ∀ n ∈ blankCodes, p (Char.ofNat n))
    (h : isBlank c = true) : p c :=
  Char.ofNat_toNat c ▸ hp c.toNat (mem_blankCodes h)

theorem isWord_eq_false_of_isBlank (h : isBlank c = true) : isWord c = false := by
  have hall : ∀ n ∈ blankCodes, isWord (Char.ofNat n) = false := by decide +kernel
  exact forall_isBlank (p := fun c => isWord c = false) hall h

theorem extendsNumber_eq_false_of_isBlank (h : isBlank c = true) : extendsNumber c = false := by
  have hall : ∀ n ∈ blankCodes, extendsNumber (Char.ofNat n) = false := by decide
  exact forall_isBlank (p := fun c => extendsNumber c = false) hall h

theorem isBlank_eq_false_of_isWord (h : isWord c = true) : isBlank c = false := by
  rw [Bool.eq_false_iff]
  intro hblank
  rw [isWord_eq_false_of_isBlank hblank] at h
  exact Bool.false_ne_true h

theorem ne_of_isWord {mark : Char} (h : isWord c = true) (hmark : isWord mark = false) :
    c ≠ mark := by
  rintro rfl
  rw [hmark] at h
  exact Bool.false_ne_true h

/-- A character keywords are spelled with. -/
def isKeyLetter (k : Char) : Bool := (65 ≤ k.toNat && k.toNat ≤ 90) || k == '_'

/-- Only letters have another upper case in ASCII, and it is a letter. -/
theorem eq_or_isAsciiLetter_of_toUpper (h : c.toUpper = k) :
    c = k ∨ isAsciiLetter c = true ∧ isAsciiLetter k = true := by
  delta Char.toUpper at h
  split at h
  · rename_i hlower
    have hlow : 97 ≤ c.toNat := UInt32.le_iff_toNat_le.mp hlower.1
    have hhigh : c.toNat ≤ 122 := UInt32.le_iff_toNat_le.mp hlower.2
    have hcode : k.toNat = c.toNat - 32 := by
      rw [← h]
      have hsum : (c.val + ('A'.val - 'a'.val)).toNat = c.toNat - 32 := by
        have hdiff : ('A'.val - 'a'.val).toNat = 4294967264 := rfl
        rw [UInt32.toNat_add, hdiff]
        change (c.toNat + 4294967264) % 2 ^ 32 = c.toNat - 32
        omega
      exact hsum
    right
    simp only [isAsciiLetter, Bool.or_eq_true, Bool.and_eq_true, decide_eq_true_eq]
    omega
  · exact .inl h

/-- A form of a letter of a keyword is an ASCII letter, the underscore, or one of the four
letters elsewhere whose other case is in ASCII. -/
theorem forms_of_isLetter (hk : isKeyLetter k = true) (h : isLetter k c = true) :
    isAsciiLetter c = true ∨ c = '_' ∨ c.toNat ∈ [0x130, 0x131, 0x212A, 0x17F] := by
  simp only [isLetter, Bool.or_eq_true, Bool.and_eq_true, beq_iff_eq] at h
  rcases h with ((hupper | ⟨-, h⟩) | ⟨-, h⟩) | ⟨-, h⟩
  · rcases eq_or_isAsciiLetter_of_toUpper hupper with rfl | ⟨hletter, -⟩
    · simp only [isKeyLetter, Bool.or_eq_true, Bool.and_eq_true, decide_eq_true_eq,
        beq_iff_eq] at hk
      refine hk.imp (fun hcapital => ?_) .inl
      simp only [isAsciiLetter, Bool.or_eq_true, Bool.and_eq_true, decide_eq_true_eq]
      exact .inl hcapital
    · exact .inl hletter
  · rcases h with h | h <;> simp [h]
  · simp [h]
  · simp [h]

theorem eq_of_isLetter_quote (h : isLetter '\'' c = true) : c = '\'' := by
  have hupper : c.toUpper = '\'' := by simpa [isLetter] using h
  exact (eq_or_isAsciiLetter_of_toUpper hupper).resolve_right fun hletter => by
    exact absurd hletter.2 (by decide)

theorem isWord_of_isAsciiLetter (h : isAsciiLetter c = true) : isWord c = true := by
  have hascii : c.toNat < 128 := by
    simp only [isAsciiLetter, Bool.or_eq_true, Bool.and_eq_true, decide_eq_true_eq] at h
    omega
  rw [isWord, if_pos hascii, h]
  rfl

theorem isDecimal_of_isAsciiLetter (h : isAsciiLetter c = true) : isDecimal c = false := by
  simp only [isAsciiLetter, Bool.or_eq_true, Bool.and_eq_true, decide_eq_true_eq] at h
  have hascii : c.toNat < 128 := by omega
  have hdigit : ¬ (decide (48 ≤ c.toNat) && decide (c.toNat ≤ 57)) = true := by
    simp only [Bool.and_eq_true, decide_eq_true_eq]
    omega
  rw [isDecimal, digitValue?, if_pos hascii, if_neg hdigit]
  rfl

theorem isWord_of_isLetter (hk : isKeyLetter k = true) (h : isLetter k c = true) :
    isWord c = true ∧ isDecimal c = false := by
  rcases forms_of_isLetter hk h with hletter | rfl | hform
  · exact ⟨isWord_of_isAsciiLetter hletter, isDecimal_of_isAsciiLetter hletter⟩
  · decide
  · have hall : ∀ n ∈ [0x130, 0x131, 0x212A, 0x17F],
        isWord (Char.ofNat n) = true ∧ isDecimal (Char.ofNat n) = false := by
      decide +kernel
    rw [← Char.ofNat_toNat c]
    exact hall _ hform

end Characters

section Fronts

variable {c : Char} {cs : List Char} {before : Option Char}

theorem quotedLength?_of_ne {quote : Char} (escapes : Bool) (h : c ≠ quote) :
    quotedLength? quote escapes (c :: cs) = none :=
  if_neg (by simpa using h)

theorem startsWith_of_ne {sign : Char} (more : List Char) (h : c ≠ sign) :
    startsWith (sign :: more) (c :: cs) = false := by
  rw [startsWith, dropPrefix?, if_neg (by simpa using h.symm)]
  rfl

theorem signOf_of_ne (text : String) {sign : Char} {more : List Char}
    (htext : text.toList = sign :: more) (h : c ≠ sign) : signOf text before (c :: cs) = none := by
  rw [signOf, htext, startsWith_of_ne more h]
  rfl

theorem runOf_of_eq_false {p : Char → Bool} (h : p c = false) :
    runOf p before (c :: cs) = none := by
  simp [runOf, countWhile, h]

theorem blankLength?_of_eq_false (h : isBlank c = false) :
    blankLength? before (c :: cs) = none := by
  simp [blankLength?, goesOn, h]

theorem signLength_of_ne (h : c ≠ '-') : signLength (c :: cs) = 0 := by
  unfold signLength
  split
  · rename_i heq
    exact absurd (List.cons.inj heq).1 h
  · rfl

end Fronts

section Counting

variable {p : Char → Bool} {cs rest : List Char}

theorem countWhile_append (hall : ∀ c ∈ cs, p c = true) (hends : goesOn p rest = false) :
    countWhile p (cs ++ rest) = cs.length := by
  rw [countWhile, List.takeWhile_append_of_pos hall]
  cases rest with
  | nil => simp
  | cons c rest =>
      have hc : p c = false := hends
      simp [hc]

end Counting

section Keywords

variable {w rest r : List Char}

/-- A keyword at the front of a word, behind which no word goes on, is part of the word. -/
theorem dropKeyword?_append {ks : List Char} (hkeys : ∀ k ∈ ks, isKeyLetter k = true)
    (hrest : goesOn isWord rest = false) (h : dropKeyword? ks (w ++ rest) = some r) :
    ∃ w', dropKeyword? ks w = some w' ∧ r = w' ++ rest := by
  induction ks generalizing w with
  | nil => exact ⟨w, rfl, (Option.some.inj h).symm⟩
  | cons k ks ih =>
      have hk := hkeys k List.mem_cons_self
      cases w with
      | nil =>
          cases rest with
          | nil => nomatch h
          | cons c rest =>
              rw [List.nil_append, dropKeyword?] at h
              split at h
              · rename_i hletter
                have hc : isWord c = false := hrest
                rw [(isWord_of_isLetter hk hletter).1] at hc
                exact absurd hc.symm Bool.false_ne_true
              · nomatch h
      | cons c w =>
          rw [List.cons_append, dropKeyword?] at h
          rw [dropKeyword?]
          split at h
          · rename_i hletter
            rw [if_pos hletter]
            exact ih (fun k hk => hkeys k (List.mem_cons_of_mem _ hk)) h
          · nomatch h

theorem suffix_of_dropKeyword? {ks : List Char} (h : dropKeyword? ks w = some r) : r <:+ w := by
  induction ks generalizing w with
  | nil =>
      rw [Option.some.inj h]
  | cons k ks ih =>
      cases w with
      | nil => nomatch h
      | cons c w =>
          rw [dropKeyword?] at h
          split at h
          · exact (ih h).trans (List.suffix_cons c w)
          · nomatch h

theorem suffix_of_dropBlanks? {cs rest : List Char} (h : dropBlanks? cs = some rest) :
    rest <:+ cs := by
  unfold dropBlanks? at h
  split at h
  · rw [← Option.some.inj h]
    exact List.dropWhile_suffix _
  · nomatch h

/-- The lists of phrases the rules look for. -/
def phraseLists : List (List (List String)) :=
  [leadingKeywords, earlyPhrases, viewPhrases, matchPhrases]

/-- The words of a phrase, of which there is at least one, are spelled in capitals. -/
structure WellSpelled (phrase : List String) : Prop where
  nonempty : phrase ≠ []
  words : ∀ word ∈ phrase, word.toList ≠ [] ∧ ∀ k ∈ word.toList, isKeyLetter k = true

theorem wellSpelled_of_mem {phrases : List (List String)} (hphrases : phrases ∈ phraseLists)
    {phrase : List String} (h : phrase ∈ phrases) : WellSpelled phrase := by
  have hall : ∀ phrases ∈ phraseLists, ∀ phrase ∈ phrases, phrase ≠ [] ∧
      ∀ word ∈ phrase, word.toList ≠ [] ∧ ∀ k ∈ word.toList, isKeyLetter k = true := by
    decide +kernel
  obtain ⟨hnonempty, hwords⟩ := hall phrases hphrases phrase h
  exact ⟨hnonempty, hwords⟩

/-- A phrase begins with a form of the first letter of its first word. -/
theorem exists_letter_of_dropPhrase? {word : String} {words : List String} {cs r : List Char}
    (hne : word.toList ≠ []) (hdrop : dropPhrase? (word :: words) cs = some r) :
    ∃ k ∈ word.toList.head?, ∃ c tail, cs = c :: tail ∧ isLetter k c = true := by
  have hfirst : ∃ r', dropKeyword? word.toList cs = some r' := by
    cases words with
    | nil => exact ⟨r, hdrop⟩
    | cons next words =>
        obtain ⟨r', hr', -⟩ := Option.bind_eq_some_iff.mp hdrop
        exact ⟨r', hr'⟩
  obtain ⟨r', hword⟩ := hfirst
  obtain ⟨k, ks, hks⟩ := List.exists_cons_of_ne_nil hne
  rw [hks] at hword ⊢
  cases cs with
  | nil => nomatch hword
  | cons c tail =>
      rw [dropKeyword?] at hword
      split at hword
      · rename_i hletter
        exact ⟨k, rfl, c, tail, rfl, hletter⟩
      · nomatch hword

theorem WellSpelled.exists_letter {phrase : List String} (h : WellSpelled phrase)
    {cs r : List Char} (hdrop : dropPhrase? phrase cs = some r) :
    ∃ k c tail, isKeyLetter k = true ∧ cs = c :: tail ∧ isLetter k c = true := by
  obtain ⟨word, words, rfl⟩ := List.exists_cons_of_ne_nil h.nonempty
  obtain ⟨hne, hletters⟩ := h.words word List.mem_cons_self
  obtain ⟨k, hk, c, tail, hcs, hletter⟩ := exists_letter_of_dropPhrase? hne hdrop
  exact ⟨k, c, tail, hletters k (List.mem_of_mem_head? hk), hcs, hletter⟩

/-- The letters that the words of phrases begin with, but for their first words. -/
def laterLetters : List Char :=
  phraseLists.flatten.flatMap fun phrase => phrase.tail.filterMap fun word => word.toList.head?

/-- A character with which a phrase may go on behind one of its words. -/
def extendsPhrase (c : Char) : Bool := isBlank c || laterLetters.any fun k => isLetter k c

/-- The words of a phrase behind the first one begin with such letters. -/
def LaterSpelled (phrase : List String) : Prop :=
  ∀ word ∈ phrase.tail, ∀ k ∈ word.toList.head?, k ∈ laterLetters

theorem laterSpelled_of_mem {phrases : List (List String)} (hphrases : phrases ∈ phraseLists)
    {phrase : List String} (h : phrase ∈ phrases) : LaterSpelled phrase := by
  intro word hword k hk
  have hmem : phrase ∈ phraseLists.flatten := List.mem_flatten.mpr ⟨phrases, hphrases, h⟩
  exact List.mem_flatMap.mpr ⟨phrase, hmem, List.mem_filterMap.mpr ⟨word, hword, hk⟩⟩

theorem extendsPhrase_of_isLetter {k c : Char} (hk : k ∈ laterLetters)
    (h : isLetter k c = true) : extendsPhrase c = true :=
  Bool.or_eq_true_iff.mpr (.inr (List.any_eq_true.mpr ⟨k, hk, h⟩))

/-- Behind a text that goes on with no word and no blank, no phrase goes on. -/
theorem goesOn_extendsPhrase_eq_false {rest : List Char}
    (h : goesOn (fun c => isWord c || isBlank c) rest = false) :
    goesOn extendsPhrase rest = false := by
  cases rest with
  | nil => rfl
  | cons c rest =>
      obtain ⟨hword, hblank⟩ := Bool.or_eq_false_iff.mp h
      refine Bool.or_eq_false_iff.mpr ⟨hblank, List.any_eq_false.mpr fun k hk hletter => ?_⟩
      have hkeys : ∀ k ∈ laterLetters, isKeyLetter k = true := by decide +kernel
      rw [(isWord_of_isLetter (hkeys k hk) hletter).1] at hword
      exact Bool.false_ne_true hword.symm

theorem exists_of_phraseLength? {phrases : List (List String)} {cs : List Char} {n : Nat}
    (h : phraseLength? phrases cs = some n) :
    ∃ phrase ∈ phrases, ∃ r, dropPhrase? phrase cs = some r ∧ wordEnds r = true ∧
      n = cs.length - r.length := by
  obtain ⟨phrase, hmem, hfound⟩ := List.exists_of_findSome?_eq_some h
  obtain ⟨r, hr, hends⟩ := Option.bind_eq_some_iff.mp hfound
  split at hends
  · rename_i hword
    exact ⟨phrase, hmem, r, hr, hword, (Option.some.inj hends).symm⟩
  · nomatch hends

end Keywords

/-- The signs that part words and numbers. -/
def separators : List Char := ['*', ',', '(', ')', ';', '<', '>', '=', '~', '!']

/-- A character that parts words and numbers. -/
def isSeparator (c : Char) : Bool := isBlank c || separators.contains c

theorem cases_of_isSeparator {c : Char} (h : isSeparator c = true) :
    isBlank c = true ∨ c ∈ separators := by
  rw [isSeparator, Bool.or_eq_true] at h
  exact h.imp_right List.contains_iff_mem.mp

theorem isWord_eq_false_of_isSeparator {c : Char} (h : isSeparator c = true) :
    isWord c = false := by
  rcases cases_of_isSeparator h with hblank | hsign
  · exact isWord_eq_false_of_isBlank hblank
  · have hall : ∀ c ∈ separators, isWord c = false := by decide
    exact hall c hsign

theorem extendsNumber_eq_false_of_isSeparator {c : Char} (h : isSeparator c = true) :
    extendsNumber c = false := by
  rcases cases_of_isSeparator h with hblank | hsign
  · exact extendsNumber_eq_false_of_isBlank hblank
  · have hall : ∀ c ∈ separators, extendsNumber c = false := by decide
    exact hall c hsign

theorem ne_of_isSeparator {c mark : Char} (h : isSeparator c = true)
    (hmark : isSeparator mark = false) : c ≠ mark := by
  rintro rfl
  rw [hmark] at h
  exact Bool.false_ne_true h

/-- What is said of the characters that may stand behind a word holds of the one there, if there
is one. -/
theorem goesOn_eq_false_of_endsOr {p q : Char → Bool} {rest : List Char}
    (hp : ∀ c, q c = true → p c = false) (h : endsOr q rest = true) : goesOn p rest = false := by
  cases rest with
  | nil => rfl
  | cons c rest => exact hp c h

theorem goesOn_isWord_eq_false {rest : List Char} (h : endsOr isSeparator rest = true) :
    goesOn isWord rest = false :=
  goesOn_eq_false_of_endsOr (fun _ => isWord_eq_false_of_isSeparator) h

/-- A word that is read alike wherever it stands: it is no number and no sign, and it draws
nothing that follows to it, as a batch separator draws a number and the beginning of a time
zone clause a quoted zone. -/
structure IsLone (w : List Char) : Prop where
  nonempty : w ≠ []
  word : ∀ c ∈ w, isWord c = true
  name : goesOn isDecimal w = false
  sign : isDivision w = false
  batch : dropKeyword? ['G', 'O'] w ≠ some []
  zone : dropKeyword? ['A', 'T'] w ≠ some []

instance (w : List Char) : Decidable (IsLone w) :=
  decidable_of_iff
    (w ≠ [] ∧ (∀ c ∈ w, isWord c = true) ∧ goesOn isDecimal w = false ∧
      isDivision w = false ∧ dropKeyword? ['G', 'O'] w ≠ some [] ∧
      dropKeyword? ['A', 'T'] w ≠ some [])
    ⟨fun ⟨h₁, h₂, h₃, h₄, h₅, h₆⟩ => ⟨h₁, h₂, h₃, h₄, h₅, h₆⟩,
      fun h => ⟨h.nonempty, h.word, h.name, h.sign, h.batch, h.zone⟩⟩

/-- A word that is read as one where it stands: it is no number and no sign, it ends there, and
neither a batch separator nor a time zone clause begins with it. -/
structure StandsAsWord (w rest : List Char) : Prop where
  nonempty : w ≠ []
  word : ∀ c ∈ w, isWord c = true
  name : goesOn isDecimal w = false
  sign : isDivision w = false
  ends : endsOr isSeparator rest = true
  batch : batchLength? (w ++ rest) = none
  zone : zoneLength? (w ++ rest) = none

section Clauses

variable {w rest : List Char}

/-- A keyword at the front of a word is the word, or its letters are followed by others of the
word. -/
theorem cases_of_dropKeyword? {ks r : List Char} (hword : ∀ c ∈ w, isWord c = true)
    (hrest : endsOr isSeparator rest = true) (hkeys : ∀ k ∈ ks, isKeyLetter k = true)
    (h : dropKeyword? ks (w ++ rest) = some r) :
    (dropKeyword? ks w = some [] ∧ r = rest) ∨ ∃ c tail, r = c :: tail ∧ isWord c = true := by
  obtain ⟨w', hw', rfl⟩ := dropKeyword?_append hkeys
    (goesOn_isWord_eq_false hrest) h
  cases w' with
  | nil => exact .inl ⟨hw', rfl⟩
  | cons c w' =>
      have hmem : c ∈ w := (suffix_of_dropKeyword? hw').subset List.mem_cons_self
      exact .inr ⟨c, w' ++ rest, rfl, hword c hmem⟩

/-- A batch separator is a word of its own and has a number behind it. -/
theorem batchLength?_eq_none (hword : ∀ c ∈ w, isWord c = true)
    (hrest : endsOr isSeparator rest = true)
    (h : dropKeyword? ['G', 'O'] w = some [] → goesOn isDecimal (rest.drop 1) = false) :
    batchLength? (w ++ rest) = none := by
  rw [batchLength?]
  cases hdrop : dropKeyword? ['G', 'O'] (w ++ rest) with
  | none => rfl
  | some r =>
      rcases cases_of_dropKeyword? hword hrest (by decide) hdrop with
        ⟨hwhole, rfl⟩ | ⟨c, tail, rfl, hc⟩
      · have hdigits := h hwhole
        cases r with
        | nil => rfl
        | cons blank digits =>
            have hcount : countWhile isDecimal digits = 0 := by
              rw [List.drop_one, List.tail_cons] at hdigits
              cases digits with
              | nil => rfl
              | cons d digits =>
                  have hd : isDecimal d = false := hdigits
                  simp [countWhile, hd]
            simp [hcount]
      · simp [isBlank_eq_false_of_isWord hc]

theorem dropKeyword?_concat {ks : List Char} {k : Char} {cs r : List Char}
    (h : dropKeyword? (ks ++ [k]) cs = some r) :
    ∃ c, dropKeyword? ks cs = some (c :: r) ∧ isLetter k c = true := by
  induction ks generalizing cs with
  | nil =>
      cases cs with
      | nil => nomatch h
      | cons c cs =>
          rw [List.nil_append, dropKeyword?] at h
          split at h
          · rename_i hletter
            exact ⟨c, by rw [← Option.some.inj h]; rfl, hletter⟩
          · nomatch h
  | cons key ks ih =>
      cases cs with
      | nil => nomatch h
      | cons c cs =>
          rw [List.cons_append, dropKeyword?] at h
          rw [dropKeyword?]
          split at h
          · rename_i hletter
            rw [if_pos hletter]
            exact ih h
          · nomatch h

theorem dropKeyword?_quote (hword : ∀ c ∈ w, isWord c = true)
    (hrest : endsOr isSeparator rest = true) :
    dropKeyword? ['W', 'I', 'T', 'H', '\''] (w ++ rest) = none := by
  cases h : dropKeyword? ['W', 'I', 'T', 'H', '\''] (w ++ rest) with
  | none => rfl
  | some r =>
      have hsplit : dropKeyword? (['W', 'I', 'T', 'H'] ++ ['\'']) (w ++ rest) = some r := h
      obtain ⟨c, hdrop, hquote⟩ := dropKeyword?_concat hsplit
      obtain rfl := eq_of_isLetter_quote hquote
      rcases cases_of_dropKeyword? hword hrest (by decide) hdrop with
        ⟨-, hcs⟩ | ⟨d, tail, hcs, hd⟩
      · rw [← hcs] at hrest
        exact absurd hrest Bool.false_ne_true
      · rw [← (List.cons.inj hcs).1] at hd
        exact absurd hd (by decide)

/-- A time zone clause begins with a word of its own and goes on with more words and a quoted
zone. -/
theorem zoneLength?_eq_none (hword : ∀ c ∈ w, isWord c = true)
    (hrest : endsOr isSeparator rest = true)
    (h : dropKeyword? ['A', 'T'] w = some [] → ∀ words behind, dropBlanks? rest = some words →
      dropPhrase? ["TIME", "ZONE"] words = some behind → '\'' ∉ behind) :
    zoneLength? (w ++ rest) = none := by
  rw [Option.eq_none_iff_forall_ne_some]
  intro n hzone
  have hsecond : ∀ x : Option (List Char), (x.orElse fun _ => none) = x := by
    intro x
    cases x <;> rfl
  rw [zoneLength?, dropKeyword?_quote hword hrest, hsecond] at hzone
  obtain ⟨behindWord, hdrop, hzone⟩ := Option.bind_eq_some_iff.mp hzone
  obtain ⟨words, hwords, hzone⟩ := Option.bind_eq_some_iff.mp hzone
  obtain ⟨behind, hbehind, hzone⟩ := Option.bind_eq_some_iff.mp hzone
  obtain ⟨quoted, hquoted, hzone⟩ := Option.bind_eq_some_iff.mp hzone
  rcases cases_of_dropKeyword? hword hrest (by decide) hdrop with
    ⟨hwhole, rfl⟩ | ⟨c, tail, rfl, hc⟩
  · split at hzone
    · refine h hwhole words behind hwords hbehind ?_
      exact (suffix_of_dropBlanks? hquoted).subset List.mem_cons_self
    · nomatch hzone
  · rw [dropBlanks?, goesOn, isBlank_eq_false_of_isWord hc, if_neg Bool.false_ne_true] at hwords
    nomatch hwords

/-- A lone word is read as one wherever it ends. -/
theorem IsLone.standsAsWord (hw : IsLone w) (hrest : endsOr isSeparator rest = true) :
    StandsAsWord w rest where
  nonempty := hw.nonempty
  word := hw.word
  name := hw.name
  sign := hw.sign
  ends := hrest
  batch := batchLength?_eq_none hw.word hrest fun h => absurd h hw.batch
  zone := zoneLength?_eq_none hw.word hrest fun h => absurd h hw.zone

end Clauses

section Rules

variable {w rest : List Char}

theorem wordLength?_append (hne : w ≠ []) (hword : ∀ c ∈ w, isWord c = true)
    (hrest : endsOr isSeparator rest = true) : wordLength? (w ++ rest) = some w.length := by
  obtain ⟨c, w, rfl⟩ := List.exists_cons_of_ne_nil hne
  have hc := hword c List.mem_cons_self
  have hends : goesOn (fun c => isWord c || c == '$' || c == '#') rest = false :=
    goesOn_eq_false_of_endsOr (fun d hd => by
      have hdollar : d ≠ '$' := ne_of_isSeparator hd rfl
      have hnumber : d ≠ '#' := ne_of_isSeparator hd rfl
      simp [isWord_eq_false_of_isSeparator hd, hdollar, hnumber]) hrest
  have hcount : countWhile (fun c => isWord c || c == '$' || c == '#') (w ++ rest) = w.length :=
    countWhile_append (fun d hd => by simp [hword d (List.mem_cons_of_mem c hd)]) hends
  rw [List.cons_append, wordLength?]
  simp [goesOn, hc, hcount, Nat.add_comm]

theorem eq_length_of_nameLength? {n : Nat} (hne : w ≠ []) (hword : ∀ c ∈ w, isWord c = true)
    (hrest : endsOr isSeparator rest = true) (h : nameLength? (w ++ rest) = some n) :
    n = w.length := by
  obtain ⟨c, w, rfl⟩ := List.exists_cons_of_ne_nil hne
  have hcount : countWhile isWord (w ++ rest) = w.length :=
    countWhile_append (fun d hd => hword d (List.mem_cons_of_mem c hd))
      (goesOn_isWord_eq_false hrest)
  rw [List.cons_append, nameLength?] at h
  split at h
  · rw [← Option.some.inj h, List.drop_one, List.tail_cons, hcount, List.length_cons,
      Nat.add_comm]
  · nomatch h

theorem StandsAsWord.wordLength? (hw : StandsAsWord w rest) :
    wordLength? (w ++ rest) = some w.length :=
  wordLength?_append hw.nonempty hw.word hw.ends

theorem StandsAsWord.divisionLength? (before : Option Char) (hw : StandsAsWord w rest) :
    divisionLength? before (w ++ rest) = none := by
  rw [JsonQuery.Sql.divisionLength?, hw.wordLength?]
  simp [hw.sign]

theorem StandsAsWord.qualifiedLength? {before : Option Char} {n : Nat} (hw : StandsAsWord w rest)
    (h : qualifiedLength? before (w ++ rest) = some n) : n = w.length := by
  rw [JsonQuery.Sql.qualifiedLength?] at h
  obtain ⟨m, hm, hif⟩ := Option.bind_eq_some_iff.mp h
  dsimp only at hif
  split at hif
  · rw [← Option.some.inj hif, eq_length_of_nameLength? hw.nonempty hw.word hw.ends hm]
  · nomatch hif

/-- No number begins with a character that is neither a digit nor a minus sign nor a point. -/
theorem numeralLength?_eq_none {c : Char} {cs : List Char} (hdigit : isDecimal c = false)
    (hminus : c ≠ '-') (hpoint : c ≠ '.') : numeralLength? (c :: cs) = none := by
  have hsign : signLength (c :: cs) = 0 := signLength_of_ne hminus
  have hcount : countWhile isDecimal (c :: cs) = 0 := by
    simp [countWhile, hdigit]
  have hhexadecimal : hexadecimalLength? (c :: cs) = none := by
    unfold hexadecimalLength?
    dsimp only
    rw [hsign, List.drop_zero]
    split
    · rename_i heq
      rw [(List.cons.inj heq).1] at hdigit
      exact absurd hdigit (by decide)
    · rfl
  have hscientific : scientificLength? (c :: cs) = none := by
    unfold scientificLength?
    dsimp only
    rw [hsign, List.drop_zero, hcount]
    split
    · simp
    · rfl
  have hdecimal : decimalLength? (c :: cs) = none := by
    unfold decimalLength?
    dsimp only
    rw [hsign, List.drop_zero, hcount, List.drop_zero]
    split
    · rename_i heq
      exact absurd (List.cons.inj heq).1 hpoint
    · rfl
  have hinteger : integerLength? (c :: cs) = none := by
    unfold integerLength?
    dsimp only
    rw [hsign, List.drop_zero, hcount]
    rfl
  rw [numeralLength?, hhexadecimal, hscientific, hdecimal, hinteger]
  rfl

/-- What a rule finds at the front of a word is the word, or a phrase that starts there. -/
def FindsWord (rule : LexemeKind × Rule) (before : Option Char) (w rest : List Char) : Prop :=
  ∀ n, rule.2 before (w ++ rest) = some n → rule.1 = .words ∧
    (n = w.length ∨ ∃ phrases ∈ phraseLists, phraseLength? phrases (w ++ rest) = some n)

theorem FindsWord.of_none {rule : LexemeKind × Rule} {before : Option Char}
    (h : rule.2 before (w ++ rest) = none) : FindsWord rule before w rest := by
  intro n hn
  rw [h] at hn
  nomatch hn

theorem FindsWord.phrase {before : Option Char} {phrases : List (List String)}
    (h : phrases ∈ phraseLists) :
    FindsWord (.words, fun _ => phraseLength? phrases) before w rest :=
  fun _ hn => ⟨rfl, .inr ⟨phrases, h, hn⟩⟩

/-- The marks that some rules look for. -/
def marks : List Char := ['$', '/', '-', '#', '%', ':', '\\', '@', '[']

/-- The rules that look for a mark find nothing where none stands. -/
theorem marks_eq_none (before : Option Char) {c : Char} (cs : List Char)
    (hne : ∀ mark ∈ marks, c ≠ mark) :
    dollarLength? before (c :: cs) = none ∧ blockRemarkLength? before (c :: cs) = none ∧
      lineRemarkLength? before (c :: cs) = none ∧ percentLength? before (c :: cs) = none ∧
      variableLength? before (c :: cs) = none ∧ commandLength? before (c :: cs) = none ∧
      temporaryLength? before (c :: cs) = none ∧ bracketLength? before (c :: cs) = none := by
  refine ⟨?_, ?_, ?_, ?_, ?_, ?_, ?_, ?_⟩
  · unfold dollarLength?
    split
    · rename_i heq
      exact absurd (List.cons.inj heq).1 (hne '$' (by decide))
    · rfl
  · unfold blockRemarkLength?
    split
    · rename_i heq
      exact absurd (List.cons.inj heq).1 (hne '/' (by decide))
    · rfl
  · unfold lineRemarkLength?
    split
    · rename_i heq
      exact absurd (List.cons.inj heq).1 (hne '-' (by decide))
    · rename_i heq
      exact absurd (List.cons.inj heq).1 (hne '#' (by decide))
    · rfl
  · unfold percentLength?
    split
    · rename_i heq
      exact absurd (List.cons.inj heq).1 (hne '%' (by decide))
    · rename_i heq
      exact absurd (List.cons.inj heq).1 (hne '%' (by decide))
    · rfl
  · simp [variableLength?, hne '$' (by decide), hne ':' (by decide)]
  · unfold commandLength?
    split
    · rename_i heq
      exact absurd (List.cons.inj heq).1 (hne '\\' (by decide))
    · rfl
  · unfold temporaryLength?
    dsimp only
    split
    · rename_i heq
      exact absurd (List.cons.inj heq).1 (hne '@' (by decide))
    · rename_i heq
      exact absurd (List.cons.inj heq).1 (hne '#' (by decide))
    · rename_i heq
      exact absurd (List.cons.inj heq).1 (hne '#' (by decide))
    · rfl
  · unfold bracketLength?
    split
    · rename_i heq
      exact absurd (List.cons.inj heq).1 (hne '[' (by decide))
    · rfl

theorem StandsAsWord.findsWord {before : Option Char} (hw : StandsAsWord w rest) :
    ∀ rule ∈ rules, FindsWord rule before w rest := by
  obtain ⟨c, tail, htail⟩ := List.exists_cons_of_ne_nil hw.nonempty
  have hcs : w ++ rest = c :: (tail ++ rest) := by rw [htail, List.cons_append]
  have hc : isWord c = true := hw.word c (by rw [htail]; exact List.mem_cons_self)
  have hdigit : isDecimal c = false := by
    have hname := hw.name
    rwa [htail] at hname
  have hne (mark : Char) (hmark : isWord mark = false) : c ≠ mark := ne_of_isWord hc hmark
  -- What the rules look for by a character that no word has.
  have hquote (quote : Char) (escapes : Bool) (hmark : isWord quote = false) :
      quotedLength? quote escapes (w ++ rest) = none :=
    hcs ▸ quotedLength?_of_ne escapes (hne quote hmark)
  have hsign (text : String) {sign : Char} {more : List Char} (htext : text.toList = sign :: more)
      (hmark : isWord sign = false) : signOf text before (w ++ rest) = none :=
    hcs ▸ signOf_of_ne text htext (hne sign hmark)
  have hmarks := marks_eq_none before (tail ++ rest) fun mark hmark =>
    hne mark ((by decide : ∀ mark ∈ marks, isWord mark = false) mark hmark)
  rw [← hcs] at hmarks
  obtain ⟨hdollar, hblock, hline, hpercent, hvariable, hcommand, htemporary, hbracket⟩ := hmarks
  have hblank : blankLength? before (w ++ rest) = none :=
    hcs ▸ blankLength?_of_eq_false (isBlank_eq_false_of_isWord hc)
  have hnumeral : numeralLength? (w ++ rest) = none :=
    hcs ▸ numeralLength?_eq_none hdigit (hne '-' rfl) (hne '.' rfl)
  have hpunctuation : ¬ goesOn (fun c => [';', ':', '(', ')', '[', ']', ',', '.'].contains c)
      (w ++ rest) = true := by
    simp only [hcs, goesOn, List.contains_eq_mem, List.mem_cons, List.not_mem_nil, or_false,
      decide_eq_true_eq, not_or]
    exact ⟨hne ';' rfl, hne ':' rfl, hne '(' rfl, hne ')' rfl, hne '[' rfl, hne ']' rfl,
      hne ',' rfl, hne '.' rfl⟩
  have harrow : arrowLength? before (w ++ rest) = none := by
    rw [hcs]
    simp [arrowLength?, startsWith_of_ne _ (hne '-' rfl), startsWith_of_ne _ (hne '#' rfl),
      startsWith_of_ne _ (hne '@' rfl), startsWith_of_ne _ (hne '<' rfl)]
  have hrun (p : Char → Bool) (hp : p c = false) : runOf p before (w ++ rest) = none :=
    hcs ▸ runOf_of_eq_false hp
  have hacute : isWord '´' = false := by decide +kernel
  have hphrases : ∀ phrases ∈ phraseLists,
      FindsWord (.words, fun _ => phraseLength? phrases) before w rest := fun _ => .phrase
  simp only [phraseLists, List.forall_mem_cons] at hphrases
  obtain ⟨hleading, hearly, hview, hmatch, -⟩ := hphrases
  -- One entry for each rule, in their order.
  simp only [rules, List.forall_mem_cons]
  refine ⟨.of_none hdollar, .of_none hblock, .of_none hline, .of_none hblank,
    .of_none (hsign ":=" rfl rfl), .of_none (hsign "::" rfl rfl),
    .of_none (hsign "*" rfl rfl), .of_none (hquote _ _ rfl), .of_none (hquote _ _ hacute),
    .of_none (hsign "?" rfl rfl), .of_none hpercent, .of_none hvariable,
    .of_none hcommand, hleading, .of_none htemporary,
    fun _ hn => ⟨rfl, .inl (hw.qualifiedLength? hn)⟩, .of_none hnumeral,
    .of_none (hquote _ _ rfl), .of_none (hquote _ _ rfl), .of_none hbracket, hearly,
    .of_none hw.batch, hview, .of_none hw.zone, hmatch,
    .of_none (hw.divisionLength? before), ?_, .of_none (if_neg hpunctuation),
    .of_none harrow, .of_none (hrun _ ?_), .of_none (hrun _ ?_), ?_⟩
  · intro n hn
    exact ⟨rfl, .inl (Option.some.inj (hn.symm.trans (hw.wordLength?)))⟩
  · simp [hne '<' rfl, hne '>' rfl, hne '=' rfl, hne '~' rfl, hne '!' rfl]
  · simp [hne '+' rfl, hne '/' rfl, hne '@' rfl, hne '#' rfl, hne '%' rfl, hne '^' rfl,
      hne '&' rfl, hne '|' rfl, hne '-' rfl]
  · simp

/-- A word is read as one, alone or at the beginning of a phrase. -/
theorem StandsAsWord.classify (before : Option Char) (hw : StandsAsWord w rest) :
    ∃ n, classify before (w ++ rest) = (.words, n) ∧
      (n = w.length ∨ ∃ phrases ∈ phraseLists, phraseLength? phrases (w ++ rest) = some n) := by
  let find (rule : LexemeKind × Rule) : Option (LexemeKind × Nat) :=
    (rule.2 before (w ++ rest)).map fun length => (rule.1, length)
  have hfires : (rules.findSome? find).isSome = true := by
    rw [List.findSome?_isSome_iff]
    refine ⟨(.words, fun _ => JsonQuery.Sql.wordLength?), by simp [rules], ?_⟩
    simp [find, hw.wordLength?]
  obtain ⟨found, hfound⟩ := Option.isSome_iff_exists.mp hfires
  obtain ⟨rule, hrule, hfind⟩ := List.exists_of_findSome?_eq_some hfound
  obtain ⟨n, hn, rfl⟩ := Option.map_eq_some_iff.mp hfind
  obtain ⟨hkind, hlength⟩ := hw.findsWord rule hrule n hn
  refine ⟨n, ?_, hlength⟩
  rw [JsonQuery.Sql.classify, show rules.findSome? (fun rule =>
    (rule.2 before (w ++ rest)).map fun length => (rule.1, length)) = _ from hfound, hkind]
  rfl

end Rules

end JsonQuery.Sql
