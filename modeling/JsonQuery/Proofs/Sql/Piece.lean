import JsonQuery.Proofs.Sql.Numeral
import JsonQuery.Proofs.Sql.Quoted
import Mathlib.Tactic

/-!
Query text put together from pieces, each of which is read on its own: words, numbers, blanks,
signs and texts between quotes. A piece must end before the one behind it. Then the tokens of
the text are those of its pieces. Keywords of several words are the one exception to reading
piece by piece, and they are cut into their words again.
-/

namespace JsonQuery.Sql

open Text

section Signs

variable (before : Option Char) {c : Char} (rest : List Char)

theorem classify_blank (h : isBlank c = true) : classify before (c :: rest) = (.space, 1) := by
  have hne (mark : Char) (hmark : isBlank mark = false) : c ≠ mark := by
    rintro rfl
    rw [hmark] at h
    exact Bool.false_ne_true h
  obtain ⟨hdollar, hblock, hline, -⟩ := marks_eq_none before rest fun mark hmark =>
    hne mark ((by decide : ∀ mark ∈ marks, isBlank mark = false) mark hmark)
  unfold classify rules
  simp only [List.findSome?, hdollar, hblock, hline]
  simp [blankLength?, goesOn, h]

theorem classify_punctuation (h : c ∈ [',', '(', ')', ';']) :
    classify before (c :: rest) = (.punctuation, 1) := by
  simp only [List.mem_cons, List.not_mem_nil, or_false] at h
  rcases h with rfl | rfl | rfl | rfl <;> rfl

/-- A character of which comparisons are made. -/
def isComparator (c : Char) : Bool := ['<', '>', '=', '~', '!'].contains c

/-- A character that goes on with a comparison, or makes another sign of it. -/
def extendsComparison (c : Char) : Bool := isComparator c || c == '@'

theorem classify_operator {cs : List Char} (hne : cs ≠ []) (hcs : ∀ c ∈ cs, isComparator c = true)
    (hrest : goesOn extendsComparison rest = false) :
    classify before (cs ++ rest) = (.operator, cs.length) := by
  obtain ⟨c, tail, rfl⟩ := List.exists_cons_of_ne_nil hne
  have hends : goesOn isComparator rest = false := by
    cases rest with
    | nil => rfl
    | cons d rest => exact (Bool.or_eq_false_iff.mp hrest).1
  have hrun : runOf isComparator before (c :: tail ++ rest) = some (c :: tail).length := by
    rw [runOf, countWhile_append hcs hends]
    rfl
  have harrow : startsWith ['<', '@'] (c :: (tail ++ rest)) = false := by
    have hnext : ∀ d later, tail ++ rest = d :: later → d ≠ '@' := by
      rintro d later hd rfl
      cases tail with
      | nil =>
          rw [List.nil_append] at hd
          rw [hd] at hrest
          exact absurd hrest.symm Bool.false_ne_true
      | cons e tail =>
          have he := hcs e (by simp)
          rw [(List.cons.inj hd).1] at he
          exact absurd he (by decide)
    cases htail : tail ++ rest with
    | nil => simp [startsWith, dropPrefix?]
    | cons d later => simp [startsWith, dropPrefix?, (hnext d later htail).symm]
  have hc := hcs c List.mem_cons_self
  simp only [isComparator, List.contains_iff_mem, List.mem_cons, List.not_mem_nil, or_false] at hc
  rw [List.cons_append] at hrun ⊢
  unfold isComparator at hrun
  unfold classify rules arrowLength?
  simp only [List.findSome?, hrun, harrow]
  rcases hc with rfl | rfl | rfl | rfl | rfl <;> rfl

end Signs

theorem isBlank_eq_false_of_isComparator {c : Char} (h : isComparator c = true) :
    isBlank c = false := by
  have hall : ∀ c ∈ ['<', '>', '=', '~', '!'], isBlank c = false := by decide
  exact hall c (List.contains_iff_mem.mp h)

/-- A piece of query text that is read on its own. -/
inductive Piece where
  | word (w : List Char)
  | number (cs : List Char)
  | blank (c : Char)
  | sign (c : Char)
  | operator (cs : List Char)
  | quoted (quote : Char) (cs : List Char)

namespace Piece

/-- The characters of a piece. -/
def raw : Piece → List Char
  | .word w => w
  | .number cs => cs
  | .blank c => [c]
  | .sign c => [c]
  | .operator cs => cs
  | .quoted quote cs => enquote quote cs

/-- The kind of token that a sign makes. -/
def signKind : Char → TokenKind
  | '*' => .star
  | ',' => .comma
  | '(' => .leftParen
  | _ => .rightParen

/-- The tokens of a piece that stands at a place. -/
def tokens (start : Nat) : Piece → List Token
  | .word w => [⟨.word, String.ofList w, start, start + w.length⟩]
  | .number cs => [⟨.number, String.ofList cs, start, start + cs.length⟩]
  | .blank _ => []
  | .sign c => [⟨signKind c, String.singleton c, start, start + 1⟩]
  | .operator cs => [⟨.operator, String.ofList cs, start, start + cs.length⟩]
  | .quoted quote cs => [tokenOf quote cs start]

/-- A piece ends before what follows it. -/
inductive Fits : Piece → List Char → Prop
  | word {w rest : List Char} (hw : IsLone w) (hrest : endsOr isSeparator rest = true) :
      Fits (.word w) rest
  | number {cs rest : List Char} (hcs : IsNumeral cs) (hrest : endsOr isSeparator rest = true) :
      Fits (.number cs) rest
  | blank {c : Char} {rest : List Char} (h : isBlank c = true) : Fits (.blank c) rest
  | star {rest : List Char} : Fits (.sign '*') rest
  | punctuation {c : Char} {rest : List Char} (h : c ∈ [',', '(', ')']) : Fits (.sign c) rest
  | operator {cs rest : List Char} (hne : cs ≠ []) (hcs : ∀ c ∈ cs, isComparator c = true)
      (hrest : goesOn extendsComparison rest = false) : Fits (.operator cs) rest
  | quoted {quote : Char} {cs rest : List Char} (hquote : IsQuote quote)
      (h : Encloses quote cs rest) : Fits (.quoted quote cs) rest

theorem fits_word {w rest : List Char} :
    Fits (.word w) rest ↔ IsLone w ∧ endsOr isSeparator rest = true := by
  constructor
  · intro h
    cases h with
    | word hw hrest => exact ⟨hw, hrest⟩
  · exact fun ⟨hw, hrest⟩ => .word hw hrest

theorem fits_number {cs rest : List Char} :
    Fits (.number cs) rest ↔ IsNumeral cs ∧ endsOr isSeparator rest = true := by
  constructor
  · intro h
    cases h with
    | number hcs hrest => exact ⟨hcs, hrest⟩
  · exact fun ⟨hcs, hrest⟩ => .number hcs hrest

theorem fits_blank {c : Char} {rest : List Char} : Fits (.blank c) rest ↔ isBlank c = true := by
  constructor
  · intro h
    cases h with
    | blank h => exact h
  · exact .blank

theorem fits_sign {c : Char} {rest : List Char} :
    Fits (.sign c) rest ↔ c = '*' ∨ c ∈ [',', '(', ')'] := by
  constructor
  · intro h
    cases h with
    | star => exact .inl rfl
    | punctuation h => exact .inr h
  · rintro (rfl | h)
    · exact .star
    · exact .punctuation h

theorem fits_operator {cs rest : List Char} : Fits (.operator cs) rest ↔
    cs ≠ [] ∧ (∀ c ∈ cs, isComparator c = true) ∧ goesOn extendsComparison rest = false := by
  constructor
  · intro h
    cases h with
    | operator hne hcs hrest => exact ⟨hne, hcs, hrest⟩
  · exact fun ⟨hne, hcs, hrest⟩ => .operator hne hcs hrest

theorem fits_quoted {quote : Char} {cs rest : List Char} :
    Fits (.quoted quote cs) rest ↔ IsQuote quote ∧ Encloses quote cs rest := by
  constructor
  · intro h
    cases h with
    | quoted hquote h => exact ⟨hquote, h⟩
  · exact fun ⟨hquote, h⟩ => .quoted hquote h

instance (p : Piece) (rest : List Char) : Decidable (p.Fits rest) :=
  match p with
  | .word _ => decidable_of_iff _ fits_word.symm
  | .number _ => decidable_of_iff _ fits_number.symm
  | .blank _ => decidable_of_iff _ fits_blank.symm
  | .sign _ => decidable_of_iff _ fits_sign.symm
  | .operator _ => decidable_of_iff _ fits_operator.symm
  | .quoted _ _ => decidable_of_iff _ fits_quoted.symm

/-- A piece is read on its own before what follows it. A word may also be one that is read
otherwise before other texts. -/
def Stays : Piece → List Char → Prop
  | .word w, rest => StandsAsWord w rest
  | p, rest => p.Fits rest

theorem Fits.stays {p : Piece} {rest : List Char} (h : p.Fits rest) : p.Stays rest := by
  cases p with
  | word w =>
      obtain ⟨hw, hrest⟩ := fits_word.mp h
      exact hw.standsAsWord hrest
  | number _ | blank _ | sign _ | operator _ | quoted _ _ => exact h

/-- Whether the piece can be part of a keyword of several words. -/
def inPhrase : Piece → Bool
  | .word _ => true
  | .blank _ => true
  | _ => false

end Piece

/-- The text made of some pieces. -/
def render (ps : List Piece) : List Char := ps.flatMap Piece.raw

/-- The tokens of some pieces the first of which stands at a place. -/
def place (start : Nat) : List Piece → List Token
  | [] => []
  | p :: ps => p.tokens start ++ place (start + p.raw.length) ps

/-- Each piece ends before the next one, and the last one before the rest of the text. -/
def WellPlaced : List Piece → List Char → Prop
  | [], _ => True
  | p :: ps, rest => p.Fits (render ps ++ rest) ∧ WellPlaced ps rest

instance decidableWellPlaced : (ps : List Piece) → (rest : List Char) →
    Decidable (WellPlaced ps rest)
  | [], _ => .isTrue trivial
  | _ :: ps, rest => @instDecidableAnd _ _ _ (decidableWellPlaced ps rest)

/-- Each piece is read on its own before the next one, and the last one before the rest of the
text. -/
def Placed : List Piece → List Char → Prop
  | [], _ => True
  | p :: ps, rest => p.Stays (render ps ++ rest) ∧ Placed ps rest

section Pieces

variable {p : Piece} {ps qs : List Piece} {rest : List Char} {start : Nat}

@[simp] theorem render_nil : render [] = [] := rfl

theorem render_cons : render (p :: ps) = p.raw ++ render ps := rfl

theorem render_append : render (ps ++ qs) = render ps ++ render qs := List.flatMap_append

theorem place_append :
    place start (ps ++ qs) = place start ps ++ place (start + (render ps).length) qs := by
  induction ps generalizing start with
  | nil => rfl
  | cons p ps ih =>
      rw [List.cons_append, place, ih, place, List.append_assoc, render_cons, List.length_append,
        Nat.add_assoc]

theorem wellPlaced_append :
    WellPlaced (ps ++ qs) rest ↔ WellPlaced ps (render qs ++ rest) ∧ WellPlaced qs rest := by
  induction ps with
  | nil => simp [WellPlaced]
  | cons p ps ih =>
      rw [List.cons_append, WellPlaced, WellPlaced, ih, render_append, List.append_assoc, and_assoc]

theorem WellPlaced.placed (h : WellPlaced ps rest) : Placed ps rest := by
  induction ps with
  | nil => exact trivial
  | cons p ps ih => exact ⟨h.1.stays, ih h.2⟩

theorem placed_append :
    Placed (ps ++ qs) rest ↔ Placed ps (render qs ++ rest) ∧ Placed qs rest := by
  induction ps with
  | nil => simp [Placed]
  | cons p ps ih =>
      rw [List.cons_append, Placed, Placed, ih, render_append, List.append_assoc, and_assoc]

theorem Piece.Stays.raw_ne_nil (h : p.Stays rest) : p.raw ≠ [] := by
  cases p with
  | word w => exact h.nonempty
  | number cs => exact (fits_number.mp h).1.ne_nil
  | operator cs => exact (fits_operator.mp h).1
  | blank _ | sign _ | quoted _ _ => exact List.cons_ne_nil _ _

theorem Piece.Stays.exists_head (h : p.Stays rest) (hblank : ∀ c, p ≠ .blank c) :
    ∃ c cs, p.raw = c :: cs ∧ isBlank c = false := by
  cases p with
  | word w =>
      obtain ⟨c, cs, rfl⟩ := List.exists_cons_of_ne_nil h.nonempty
      exact ⟨c, cs, rfl, isBlank_eq_false_of_isWord (h.word c List.mem_cons_self)⟩
  | number cs =>
      obtain ⟨c, cs, rfl, hc | ⟨rfl, -⟩⟩ := (fits_number.mp h).1.exists_head
      · exact ⟨c, cs, rfl, isBlank_eq_false_of_isDecimal hc⟩
      · exact ⟨'-', cs, rfl, by decide⟩
  | operator cs =>
      obtain ⟨hne, hcs, -⟩ := fits_operator.mp h
      obtain ⟨c, cs, rfl⟩ := List.exists_cons_of_ne_nil hne
      exact ⟨c, cs, rfl, isBlank_eq_false_of_isComparator (hcs c List.mem_cons_self)⟩
  | blank c => exact absurd rfl (hblank c)
  | sign c =>
      have hall : ∀ c ∈ ['*', ',', '(', ')'], isBlank c = false := by decide
      exact ⟨c, [], rfl, hall c (List.mem_cons.mpr (fits_sign.mp h))⟩
  | quoted quote cs =>
      refine ⟨quote, _, rfl, ?_⟩
      rcases (fits_quoted.mp h).1 with rfl | rfl <;> rfl

theorem Piece.Stays.exists_word {k c : Char} {cs : List Char} (h : p.Stays rest)
    (hk : isKeyLetter k = true) (hraw : p.raw = c :: cs) (hletter : isLetter k c = true) :
    ∃ w, p = .word w := by
  have hother : ¬ (isDecimal c = true ∨ isWord c = false) := by
    intro hother
    rw [isLetter_eq_false hk hother] at hletter
    exact Bool.false_ne_true hletter
  have hsign (signs : List Char) (hsigns : ∀ d ∈ signs, isWord d = false) (hc : c ∈ signs) :
      ∃ w, p = .word w := absurd (.inr (hsigns c hc)) hother
  cases p with
  | word w => exact ⟨w, rfl⟩
  | number ds =>
      obtain ⟨d, tail, rfl, hd⟩ := (fits_number.mp h).1.exists_head
      obtain rfl : d = c := (List.cons.inj hraw).1
      rcases hd with hd | ⟨rfl, -⟩
      · exact absurd (.inl hd) hother
      · exact hsign ['-'] (by decide) List.mem_cons_self
  | operator ds =>
      have hraw : ds = c :: cs := hraw
      have hc := (fits_operator.mp h).2.1 c (by rw [hraw]; exact List.mem_cons_self)
      exact hsign _ (by decide) (List.contains_iff_mem.mp hc)
  | blank d =>
      have hd : isBlank d = true := fits_blank.mp h
      rw [(List.cons.inj hraw).1] at hd
      exact absurd (.inr (isWord_eq_false_of_isBlank hd)) hother
  | sign d =>
      obtain rfl : d = c := (List.cons.inj hraw).1
      exact hsign ['*', ',', '(', ')'] (by decide) (List.mem_cons.mpr (fits_sign.mp h))
  | quoted quote ds =>
      obtain rfl : quote = c := (List.cons.inj hraw).1
      exact hsign ['\'', '"'] (by decide) (by simpa [IsQuote] using (fits_quoted.mp h).1)

/-- Blanks are skipped piece by piece. -/
theorem dropWhile_render (h : Placed ps rest) (hrest : goesOn isBlank rest = false) :
    ∃ blanks later, ps = blanks ++ later ∧ (∀ p ∈ blanks, p.inPhrase = true) ∧
      (render ps ++ rest).dropWhile isBlank = render later ++ rest := by
  induction ps with
  | nil =>
      refine ⟨[], [], rfl, fun p hp => absurd hp List.not_mem_nil, ?_⟩
      cases rest with
      | nil => rfl
      | cons c rest =>
          have hc : isBlank c = false := hrest
          simp [hc]
  | cons p ps ih =>
      by_cases hblank : ∃ c, p = .blank c
      · obtain ⟨c, rfl⟩ := hblank
        obtain ⟨hfits, hps⟩ := h
        obtain ⟨blanks, later, rfl, hall, hdrop⟩ := ih hps
        have hc : isBlank c = true := Piece.fits_blank.mp hfits
        refine ⟨.blank c :: blanks, later, rfl, List.forall_mem_cons.mpr ⟨rfl, hall⟩, ?_⟩
        rw [render_cons, Piece.raw, List.singleton_append, List.cons_append, List.dropWhile_cons,
          if_pos hc, hdrop]
      · refine ⟨[], p :: ps, rfl, fun p hp => absurd hp List.not_mem_nil, ?_⟩
        obtain ⟨c, cs, hraw, hc⟩ := h.1.exists_head fun c hc => hblank ⟨c, hc⟩
        rw [render_cons, hraw]
        simp [hc]

theorem goesOn_isBlank_eq_false (h : goesOn extendsPhrase rest = false) :
    goesOn isBlank rest = false := by
  cases rest with
  | nil => rfl
  | cons c rest => exact (Bool.or_eq_false_iff.mp h).1

theorem exists_word {k c : Char} {cs : List Char} (h : Placed ps rest)
    (hrest : goesOn extendsPhrase rest = false) (hk : isKeyLetter k = true)
    (hlater : k ∈ laterLetters) (hcs : render ps ++ rest = c :: cs) (hletter : isLetter k c = true) :
    ∃ w later, ps = .word w :: later := by
  cases ps with
  | nil =>
      rw [render_nil, List.nil_append] at hcs
      rw [hcs, goesOn, extendsPhrase_of_isLetter hlater hletter] at hrest
      exact absurd hrest.symm Bool.false_ne_true
  | cons p ps =>
      obtain ⟨d, tail, hraw⟩ := List.exists_cons_of_ne_nil h.1.raw_ne_nil
      rw [render_cons, hraw] at hcs
      obtain rfl := (List.cons.inj hcs).1
      obtain ⟨w, rfl⟩ := h.1.exists_word hk hraw hletter
      exact ⟨w, ps, rfl⟩

/-- A keyword at the front of a word, behind which a word ends, is the word. -/
theorem dropKeyword?_render {ks w r : List Char} (hkeys : ∀ k ∈ ks, isKeyLetter k = true)
    (h : Placed (.word w :: ps) rest)
    (hdrop : dropKeyword? ks (render (.word w :: ps) ++ rest) = some r)
    (hends : goesOn isWord r = false) : r = render ps ++ rest := by
  obtain ⟨hw, -⟩ := h
  rw [render_cons, Piece.raw, List.append_assoc] at hdrop
  obtain ⟨w', hw', rfl⟩ := dropKeyword?_append hkeys (goesOn_isWord_eq_false hw.ends) hdrop
  cases w' with
  | nil => rfl
  | cons c w' =>
      have hc : isWord c = true :=
        hw.word c ((suffix_of_dropKeyword? hw').subset List.mem_cons_self)
      have hno : isWord c = false := hends
      rw [hc] at hno
      exact absurd hno.symm Bool.false_ne_true

theorem goesOn_isWord_of_dropBlanks? {cs r : List Char} (h : dropBlanks? cs = some r) :
    goesOn isWord cs = false := by
  rw [dropBlanks?] at h
  split at h
  · rename_i hblank
    cases cs with
    | nil => rfl
    | cons c cs => exact isWord_eq_false_of_isBlank hblank
  · cases h

theorem dropBlanks?_render {r : List Char} (h : Placed ps rest)
    (hrest : goesOn isBlank rest = false) (hdrop : dropBlanks? (render ps ++ rest) = some r) :
    ∃ blanks later, ps = blanks ++ later ∧ (∀ p ∈ blanks, p.inPhrase = true) ∧
      r = render later ++ rest := by
  obtain ⟨blanks, later, hsplit, hall, hlater⟩ := dropWhile_render h hrest
  refine ⟨blanks, later, hsplit, hall, ?_⟩
  rw [dropBlanks?] at hdrop
  split at hdrop
  · rw [← Option.some.inj hdrop, hlater]
  · cases hdrop

/-- A phrase at the front of a word reaches over words and blanks only. -/
theorem dropPhrase?_render {phrase : List String} {w r : List Char} (hphrase : WellSpelled phrase)
    (hspells : LaterSpelled phrase) (h : Placed (.word w :: ps) rest)
    (hrest : goesOn extendsPhrase rest = false)
    (hdrop : dropPhrase? phrase (render (.word w :: ps) ++ rest) = some r)
    (hends : wordEnds r = true) :
    ∃ mid later, .word w :: ps = mid ++ later ∧ mid ≠ [] ∧ (∀ p ∈ mid, p.inPhrase = true) ∧
      r = render later ++ rest := by
  induction phrase generalizing w ps with
  | nil => exact absurd rfl hphrase.nonempty
  | cons first words ih =>
      have hkeys := (hphrase.words first List.mem_cons_self).2
      cases words with
      | nil =>
          have hr : goesOn isWord r = false := by
            cases r with
            | nil => rfl
            | cons c r => simpa [wordEnds, endsOr, goesOn] using hends
          refine ⟨[.word w], ps, rfl, List.cons_ne_nil _ _, ?_,
            dropKeyword?_render hkeys h hdrop hr⟩
          simp [Piece.inPhrase]
      | cons next words =>
          obtain ⟨r₁, hfirst, hmore⟩ := Option.bind_eq_some_iff.mp hdrop
          obtain ⟨r₂, hblanks, hlater⟩ := Option.bind_eq_some_iff.mp hmore
          obtain rfl := dropKeyword?_render hkeys h hfirst (goesOn_isWord_of_dropBlanks? hblanks)
          obtain ⟨blanks, behind, rfl, hall, rfl⟩ :=
            dropBlanks?_render h.2 (goesOn_isBlank_eq_false hrest) hblanks
          -- The next word of the phrase begins with a letter, so a word stands there.
          have hspelled : WellSpelled (next :: words) :=
            ⟨List.cons_ne_nil _ _, fun word hword => hphrase.words word (.tail _ hword)⟩
          have hplaced := (placed_append.mp h.2).2
          obtain ⟨hnext, hletters⟩ := hphrase.words next (.tail _ List.mem_cons_self)
          obtain ⟨k, hk, c, tail, hcs, hletter⟩ := exists_letter_of_dropPhrase? hnext hlater
          obtain ⟨w', later, rfl⟩ := exists_word hplaced hrest
            (hletters k (List.mem_of_mem_head? hk)) (hspells next List.mem_cons_self k hk) hcs hletter
          obtain ⟨mid, rest', hsplit, hne, hmid, hr⟩ :=
            ih hspelled (fun word hword => hspells word (.tail _ hword)) hplaced hlater
          refine ⟨.word w :: (blanks ++ mid), rest', ?_, List.cons_ne_nil _ _, ?_, hr⟩
          · rw [hsplit, List.cons_append, List.append_assoc]
          · intro p hp
            rcases List.mem_cons.mp hp with rfl | hp
            · rfl
            · exact (List.mem_append.mp hp).elim (hall p) (hmid p)

theorem splitWords_word {w acc cs : List Char} (hw : ∀ c ∈ w, isBlank c = false) :
    splitWords acc start (w ++ cs) = splitWords (w.reverse ++ acc) (start + w.length) cs := by
  induction w generalizing acc start with
  | nil => rfl
  | cons c w ih =>
      have hc := hw c List.mem_cons_self
      rw [List.cons_append, splitWords, hc, if_neg Bool.false_ne_true,
        ih fun c hc => hw c (List.mem_cons_of_mem _ hc), List.reverse_cons, List.append_assoc,
        List.length_cons, Nat.add_assoc, Nat.add_comm 1]
      rfl

theorem splitWords_closed {acc cs : List Char} (hacc : acc ≠ [])
    (hends : endsOr isBlank cs = true) :
    splitWords acc start cs = splitWords.close acc start :: splitWords [] start cs := by
  have hne : acc.isEmpty = false := by simpa using hacc
  cases cs with
  | nil =>
      rw [splitWords, hne]
      rfl
  | cons c cs =>
      have hc : isBlank c = true := hends
      rw [splitWords, splitWords, if_pos hc, if_pos hc, hne]
      rfl

/-- Behind a word, pieces of a phrase go on with a blank. -/
theorem endsOr_isBlank {w : List Char} (h : Placed (.word w :: ps) rest)
    (hwords : ∀ p ∈ ps, p.inPhrase = true) : endsOr isBlank (render ps) = true := by
  obtain ⟨hw, hps⟩ := h
  have hrest := hw.ends
  cases ps with
  | nil => rfl
  | cons p ps =>
      cases p with
      | number _ | sign _ | operator _ | quoted _ _ =>
          exact absurd (hwords _ List.mem_cons_self) Bool.false_ne_true
      | blank c => exact Piece.fits_blank.mp hps.1
      | word v =>
          obtain ⟨hv, -⟩ := hps
          obtain ⟨c, v, rfl⟩ := List.exists_cons_of_ne_nil hv.nonempty
          have hno : isWord c = false := isWord_eq_false_of_isSeparator hrest
          rw [hv.word c List.mem_cons_self] at hno
          exact absurd hno.symm Bool.false_ne_true

/-- A text of words and blanks is cut into its words. -/
theorem splitWords_render (h : Placed ps rest) (hwords : ∀ p ∈ ps, p.inPhrase = true)
    (start : Nat) : splitWords [] start (render ps) = place start ps := by
  induction ps generalizing start with
  | nil => rfl
  | cons p ps ih =>
      have hlater : ∀ p ∈ ps, p.inPhrase = true := fun p hp => hwords p (List.mem_cons_of_mem _ hp)
      cases p with
      | number _ | sign _ | operator _ | quoted _ _ =>
          exact absurd (hwords _ List.mem_cons_self) Bool.false_ne_true
      | blank c =>
          have hc : isBlank c = true := Piece.fits_blank.mp h.1
          rw [render_cons, Piece.raw, List.singleton_append, splitWords, if_pos hc, place,
            ih h.2 hlater]
          rfl
      | word w =>
          obtain ⟨hw, hps⟩ := id h
          have hnotBlank : ∀ c ∈ w, isBlank c = false :=
            fun c hc => isBlank_eq_false_of_isWord (hw.word c hc)
          have hne : w.reverse ++ [] ≠ [] := by simpa using hw.nonempty
          rw [render_cons, Piece.raw, splitWords_word hnotBlank,
            splitWords_closed hne (endsOr_isBlank h hlater), ih hps hlater, place, Piece.tokens]
          simp [splitWords.close, Piece.raw]

/-- What the rules find at the front of some pieces are one or several of them, and its tokens
are theirs. -/
def ReadsPieces (before : Option Char) (start : Nat) (ps : List Piece) (rest : List Char) : Prop :=
  ∃ mid later kind, ps = mid ++ later ∧ mid ≠ [] ∧
    classify before (render ps ++ rest) = (kind, (render mid).length) ∧
    Lexeme.tokens ⟨kind, render mid, start⟩ = place start mid

variable {before : Option Char}

theorem readsPieces_single (kind : LexemeKind)
    (hclassify : classify before (p.raw ++ (render ps ++ rest)) = (kind, p.raw.length))
    (htokens : Lexeme.tokens ⟨kind, p.raw, start⟩ = p.tokens start) :
    ReadsPieces before start (p :: ps) rest := by
  have hone : render [p] = p.raw := by rw [render_cons, render_nil, List.append_nil]
  refine ⟨[p], ps, kind, rfl, List.cons_ne_nil _ _, ?_, ?_⟩
  · rw [render_cons, List.append_assoc, hclassify, hone]
  · rw [hone, htokens, place, place, List.append_nil]

/-- A keyword of several words is the pieces it reaches over, and is cut into their words. -/
theorem readsPieces_phrase {phrase : List String} {w r : List Char} (hspelled : WellSpelled phrase)
    (hspells : LaterSpelled phrase) (h : Placed (.word w :: ps) rest)
    (hrest : goesOn extendsPhrase rest = false)
    (hdrop : dropPhrase? phrase (render (.word w :: ps) ++ rest) = some r)
    (hends : wordEnds r = true)
    (hclassify : classify before (render (.word w :: ps) ++ rest) =
      (.words, (render (.word w :: ps) ++ rest).length - r.length)) :
    ReadsPieces before start (.word w :: ps) rest := by
  obtain ⟨mid, later, hsplit, hne, hwords, rfl⟩ :=
    dropPhrase?_render hspelled hspells h hrest hdrop hends
  refine ⟨mid, later, .words, hsplit, hne, ?_, ?_⟩
  · rw [hclassify, hsplit, render_append, List.append_assoc, List.length_append,
      Nat.add_sub_cancel]
  · rw [hsplit] at h
    exact splitWords_render (placed_append.mp h).1 hwords start

theorem Placed.readsPieces (before : Option Char) (start : Nat)
    (h : Placed (p :: ps) rest)
    (hrest : goesOn extendsPhrase rest = false) :
    ReadsPieces before start (p :: ps) rest := by
  obtain ⟨hstays, hps⟩ := id h
  cases p with
  | blank c =>
      exact readsPieces_single .space (classify_blank before _ (Piece.fits_blank.mp hstays)) rfl
  | number cs =>
      obtain ⟨hcs, hends⟩ := Piece.fits_number.mp hstays
      exact readsPieces_single .number (hcs.classify before hends) rfl
  | sign c =>
      rcases Piece.fits_sign.mp hstays with rfl | hc
      · exact readsPieces_single .star rfl rfl
      · have hmem := List.mem_append_left [';'] hc
        refine readsPieces_single .punctuation (classify_punctuation before _ hmem) ?_
        simp only [List.mem_cons, List.not_mem_nil, or_false] at hc
        rcases hc with rfl | rfl | rfl <;> rfl
  | operator cs =>
      obtain ⟨hne, hcs, hends⟩ := Piece.fits_operator.mp hstays
      exact readsPieces_single .operator (classify_operator before _ hne hcs hends) rfl
  | quoted quote cs =>
      obtain ⟨hquote, hencloses⟩ := Piece.fits_quoted.mp hstays
      refine readsPieces_single .quoted (classify_quoted hquote
        (hencloses.quotedLength? hquote.ne_backslash)) ?_
      rw [Lexeme.tokens, Piece.tokens]
      exact congrArg (fun t => [t]) (quotedToken_enquote start)
  | word w =>
      obtain ⟨n, hclassify, hlength⟩ := hstays.classify before
      rcases hlength with rfl | ⟨phrases, hphrases, hfound⟩
      · have hplaced : Placed [.word w] (render ps ++ rest) := ⟨hstays, trivial⟩
        have hsplit := splitWords_render hplaced (by simp [Piece.inPhrase]) start
        rw [render_cons, render_nil, List.append_nil] at hsplit
        refine readsPieces_single .words hclassify ?_
        rw [Lexeme.tokens, hsplit, place, place, List.append_nil]
      · have hcs : w ++ (render ps ++ rest) = render (.word w :: ps) ++ rest := by
          rw [render_cons, List.append_assoc]
          rfl
        rw [hcs] at hclassify hfound
        obtain ⟨phrase, hmem, r, hdrop, hword, rfl⟩ := exists_of_phraseLength? hfound
        exact readsPieces_phrase (wellSpelled_of_mem hphrases hmem)
          (laterSpelled_of_mem hphrases hmem) h hrest hdrop hword hclassify

/-- The tokens of a text that begins with pieces are those of the pieces, and those of the
rest. -/
theorem tokensAt_render (before : Option Char) (start : Nat) (h : Placed ps rest)
    (hrest : goesOn extendsPhrase rest = false) :
    tokensAt before start (render ps ++ rest) =
      place start ps ++
        tokensAt ((render ps).getLast?.or before) (start + (render ps).length) rest := by
  induction hlength : ps.length using Nat.strong_induction_on generalizing before start ps with
  | _ length ih =>
      cases ps with
      | nil => rfl
      | cons p ps =>
          obtain ⟨mid, later, kind, hsplit, hne, hclassify, htokens⟩ :=
            h.readsPieces before start hrest
          rw [hsplit] at h hclassify hlength ⊢
          obtain ⟨hmid, hlater⟩ := placed_append.mp h
          have hraw : render mid ≠ [] := by
            obtain ⟨q, qs, rfl⟩ := List.exists_cons_of_ne_nil hne
            rw [render_cons]
            exact List.append_ne_nil_of_left_ne_nil hmid.1.raw_ne_nil _
          have hshorter : later.length < length := by
            rw [← hlength, List.length_append]
            exact Nat.lt_add_of_pos_left (List.length_pos_iff.mpr hne)
          have hlast : (render mid).getLast?.or before = (render mid).getLast? := by
            rw [List.getLast?_eq_some_getLast hraw]
            rfl
          rw [render_append, List.append_assoc] at hclassify ⊢
          rw [tokensAt_append hraw hclassify, htokens, ih _ hshorter _ _ hlater rfl, place_append,
            List.append_assoc, List.getLast?_append, List.length_append, Option.or_assoc,
            hlast, Nat.add_assoc]

theorem stripWhere_eq_self {p : Char → Bool} {c d : Char} {cs ds : List Char}
    (hfirst : cs = c :: ds) (hc : p c = false) (hlast : cs.getLast? = some d) (hd : p d = false) :
    stripWhere p cs = cs := by
  obtain ⟨front, hfront⟩ := List.getLast?_eq_some_iff.mp hlast
  have hleft : cs.dropWhile p = cs := by
    rw [hfirst, List.dropWhile_cons, hc, if_neg Bool.false_ne_true]
  rw [stripWhere, hleft, hfront, List.reverse_append, List.reverse_singleton, List.singleton_append,
    List.dropWhile_cons, hd, if_neg Bool.false_ne_true]
  simp

end Pieces

end JsonQuery.Sql
