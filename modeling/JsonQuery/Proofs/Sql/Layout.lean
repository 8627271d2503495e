import JsonQuery.Proofs.Sql.Ends
import Mathlib.Tactic

/-!
Where the tokens of a text stand in it. The text is laid out in tokens and characters that are
left out: each token is spelled with a part of the text, the parts follow each other, and what
stands between them is white space or belongs to a remark. This is put together from the
lexemes, one behind the other, and inside a lexeme of several words from its words.
-/

namespace JsonQuery.Sql

open Text

section Quotes

variable {quote : Char} {cs ds : List Char}

/-- Each doubled quote is written once, and any other character as it is. -/
inductive Undoubled (quote : Char) : List Char → List Char → Prop
  | nil : Undoubled quote [] []
  | pair {cs ds : List Char} (hrest : Undoubled quote cs ds) :
      Undoubled quote (quote :: quote :: cs) (quote :: ds)
  | single {c : Char} {cs ds : List Char} (hsingle : c = quote → cs.head? ≠ some quote)
      (hrest : Undoubled quote cs ds) : Undoubled quote (c :: cs) (c :: ds)

theorem undoubled_iff : Undoubled quote cs ds ↔ undouble quote cs = ds := by
  constructor
  · intro h
    induction h with
    | nil => rfl
    | pair _ ih => rw [undouble, beq_self_eq_true, Bool.and_self, if_pos rfl, ih]
    | @single c cs ds hsingle _ ih =>
        cases cs with
        | nil =>
            rw [← ih]
            rfl
        | cons d cs =>
            have hpair : (c == quote && d == quote) = false := by
              rw [Bool.and_eq_false_imp]
              intro hc
              have hd := hsingle (beq_iff_eq.mp hc)
              exact beq_false_of_ne fun h => hd (congrArg some h)
            rw [undouble, hpair, if_neg Bool.false_ne_true, ih]
  · rintro rfl
    fun_induction undouble quote cs with
    | case1 => exact .nil
    | case2 c =>
        refine .single ?_ .nil
        rintro - ⟨⟩
    | case3 c d rest hpair ih =>
        obtain ⟨hc, hd⟩ := Bool.and_eq_true_iff.mp hpair
        rw [beq_iff_eq.mp hc, beq_iff_eq.mp hd]
        exact .pair ih
    | case4 c d rest hpair ih =>
        refine .single ?_ ih
        rintro rfl hd
        exact hpair (by simpa using hd)

/-- What a quoted text says: what stands between its quotes, with each doubled one written once,
or all of it if it does not stand between quotes. -/
structure Unquoted (raw value : List Char) : Prop where
  closed : ∀ quote ∈ quoteMarks, ∀ inner, raw = quote :: (inner ++ [quote]) →
    Undoubled quote inner value
  unclosed : (∀ quote ∈ quoteMarks, ∀ inner, raw ≠ quote :: (inner ++ [quote])) → value = raw

theorem unquoted_unquote {tail : List Char} (hquote : quote ∈ quoteMarks) :
    Unquoted (quote :: tail) (unquote (quote :: tail)) := by
  constructor
  · intro other _ inner hraw
    obtain ⟨rfl, rfl⟩ := List.cons.inj hraw
    rw [undoubled_iff, unquote, List.getLast?_concat, List.dropLast_concat, if_pos BEq.rfl]
  · intro hunclosed
    rw [unquote]
    split
    · rename_i hlast
      obtain ⟨inner, hinner⟩ := List.getLast?_eq_some_iff.mp (beq_iff_eq.mp hlast)
      exact absurd (by rw [hinner]) (hunclosed quote hquote inner)
    · rfl

end Quotes

/-- The value of a token is spelled with a part of the text. -/
structure SpelledBy (slice : List Char) (t : Token) : Prop where
  plain : t.kind ≠ .string → t.kind ≠ .quotedName → slice = t.value.toList
  quoted : t.kind = .string ∨ t.kind = .quotedName → Unquoted slice t.value.toList

/-- A text that begins at a place is laid out in tokens, one behind the other, and characters
that may be left out. -/
inductive Laid (Gap : Nat → Char → Prop) : Nat → List Char → List Token → Prop
  | nil {start : Nat} : Laid Gap start [] []
  | gap {start : Nat} {c : Char} {cs : List Char} {ts : List Token} (hgap : Gap start c)
      (hrest : Laid Gap (start + 1) cs ts) : Laid Gap start (c :: cs) ts
  | token {start : Nat} {slice cs : List Char} {t : Token} {ts : List Token}
      (hne : slice ≠ []) (hspelled : SpelledBy slice t) (hstart : t.start = start)
      (hstop : t.stop = start + slice.length) (hrest : Laid Gap (start + slice.length) cs ts) :
      Laid Gap start (slice ++ cs) (t :: ts)

namespace Laid

variable {Gap Gap' : Nat → Char → Prop} {start : Nat} {cs ds : List Char} {ts us : List Token}

theorem append (h : Laid Gap start cs ts) (hnext : Laid Gap (start + cs.length) ds us) :
    Laid Gap start (cs ++ ds) (ts ++ us) := by
  induction h with
  | nil => exact hnext
  | @gap start c cs ts hgap hrest ih =>
      apply gap hgap
      apply ih
      rwa [List.length_cons, Nat.add_comm cs.length, ← Nat.add_assoc] at hnext
  | @token start slice cs t ts hne hspelled hstart hstop hrest ih =>
      rw [List.append_assoc]
      apply token hne hspelled hstart hstop
      apply ih
      rwa [List.length_append, ← Nat.add_assoc] at hnext

/-- What may be left out where it stands may be left out for another reason as well. -/
theorem imp (h : Laid Gap start cs ts)
    (himp : ∀ i c, cs[i]? = some c → Gap (start + i) c → Gap' (start + i) c) :
    Laid Gap' start cs ts := by
  induction h with
  | nil => exact .nil
  | @gap start c cs ts hgap hrest ih =>
      refine .gap (himp 0 c rfl hgap) (ih ?_)
      intro i d hd hold
      rw [Nat.add_assoc, Nat.add_comm 1] at hold ⊢
      exact himp (i + 1) d hd hold
  | @token start slice cs t ts hne hspelled hstart hstop hrest ih =>
      refine .token hne hspelled hstart hstop (ih ?_)
      intro i d hd hold
      rw [Nat.add_assoc] at hold ⊢
      refine himp (slice.length + i) d ?_ hold
      rwa [List.getElem?_append_right (Nat.le_add_right _ _), Nat.add_sub_cancel_left]

theorem gaps (h : ∀ i, ∀ c ∈ cs, Gap i c) (start : Nat) : Laid Gap start cs [] := by
  induction cs generalizing start with
  | nil => exact .nil
  | cons c cs ih =>
      obtain ⟨hfirst, hrest⟩ := forall_and.mp fun i => List.forall_mem_cons.mp (h i)
      exact .gap (hfirst start) (ih hrest (start + 1))

theorem within (h : Laid Gap start cs ts) : ∀ t ∈ ts, start ≤ t.start ∧ t.start < t.stop ∧
    t.stop ≤ start + cs.length := by
  induction h with
  | nil => exact fun t ht => absurd ht List.not_mem_nil
  | @gap start c cs ts hgap hrest ih =>
      intro t ht
      obtain ⟨hlow, hpos, hhigh⟩ := ih t ht
      rw [List.length_cons]
      omega
  | @token start slice cs t ts hne hspelled hstart hstop hrest ih =>
      have hlength := List.length_pos_iff.mpr hne
      intro u hu
      rw [List.length_append]
      rcases List.mem_cons.mp hu with rfl | hlater
      · omega
      · obtain ⟨hlow, hpos, hhigh⟩ := ih u hlater
        omega

theorem pairwise (h : Laid Gap start cs ts) : ts.Pairwise fun a b => a.stop ≤ b.start := by
  induction h with
  | nil => exact .nil
  | gap _ _ ih => exact ih
  | @token start slice cs t ts hne hspelled hstart hstop hrest ih =>
      refine .cons ?_ ih
      intro u hu
      rw [hstop]
      exact (hrest.within u hu).1

/-- Every token is spelled with what stands at its place. -/
theorem spelled (h : Laid Gap start cs ts) : ∀ t ∈ ts,
    SpelledBy ((cs.take (t.stop - start)).drop (t.start - start)) t := by
  induction h with
  | nil => exact fun t ht => absurd ht List.not_mem_nil
  | @gap start c cs ts hgap hrest ih =>
      intro t ht
      have hpos := (hrest.within t ht).2.1
      have hlow := (hrest.within t ht).1
      have hstop : t.stop - start = t.stop - (start + 1) + 1 := by omega
      have hstart : t.start - start = t.start - (start + 1) + 1 := by omega
      rw [hstop, hstart, List.take_succ_cons, List.drop_succ_cons]
      exact ih t ht
  | @token start slice cs t ts hne hspelled hstart hstop hrest ih =>
      intro u hu
      rcases List.mem_cons.mp hu with rfl | hlater
      · rw [hstart, hstop, Nat.add_sub_cancel_left, Nat.sub_self, List.take_left, List.drop_zero]
        exact hspelled
      · obtain ⟨hlow, hpos, -⟩ := hrest.within u hlater
        have hstop' : u.stop - start = slice.length + (u.stop - (start + slice.length)) := by omega
        have hstart' : u.start - start = slice.length + (u.start - (start + slice.length)) := by
          omega
        rw [hstop', hstart', List.take_length_add_append, List.drop_length_add_append]
        exact ih u hlater

/-- A character stands in a token, or it may be left out. -/
theorem mem_or_gap (h : Laid Gap start cs ts) {i : Nat} {c : Char} (hc : cs[i]? = some c) :
    (∃ t ∈ ts, t.start ≤ start + i ∧ start + i < t.stop) ∨ Gap (start + i) c := by
  induction h generalizing i with
  | nil => nomatch hc
  | @gap start d cs ts hgap hrest ih =>
      cases i with
      | zero =>
          rw [← Option.some.inj hc]
          exact .inr hgap
      | succ i =>
          have hnext := ih hc
          rwa [Nat.add_assoc, Nat.add_comm 1] at hnext
  | @token start slice cs t ts hne hspelled hstart hstop hrest ih =>
      by_cases hi : i < slice.length
      · refine .inl ⟨t, List.mem_cons_self, ?_, ?_⟩ <;> omega
      · obtain ⟨k, rfl⟩ := Nat.exists_eq_add_of_le (Nat.not_lt.mp hi)
        rw [List.getElem?_append_right (Nat.le_add_right _ _), Nat.add_sub_cancel_left] at hc
        rw [← Nat.add_assoc]
        refine (ih hc).imp_left ?_
        rintro ⟨u, hu, hplace⟩
        exact ⟨u, List.mem_cons_of_mem t hu, hplace⟩

end Laid

section Words

variable {word cs : List Char}

theorem spelledBy_word (word : List Char) (start stop : Nat) :
    SpelledBy word ⟨.word, String.ofList word, start, stop⟩ := by
  constructor
  · intro _ _
    rw [String.toList_ofList]
  · rintro (hkind | hkind) <;> nomatch hkind

theorem laid_close {Gap : Nat → Char → Prop} (hne : word ≠ []) {start : Nat} {ts : List Token}
    (h : Laid Gap (start + word.length) cs ts) :
    Laid Gap start (word.reverse ++ cs) (splitWords.close word (start + word.length) :: ts) := by
  refine .token (by simpa using hne) (spelledBy_word _ _ _) ?_ ?_ ?_
  · exact Nat.add_sub_cancel start word.length
  · rw [List.length_reverse]
    rfl
  · rwa [List.length_reverse]

/-- A text is laid out in its words, with blanks between them. The word under way is part of the
text. -/
theorem splitWords_laid (word cs : List Char) (start : Nat) :
    Laid (fun _ c => isBlank c = true) start (word.reverse ++ cs)
      (splitWords word (start + word.length) cs) := by
  induction cs generalizing word start with
  | nil =>
      cases word with
      | nil => exact .nil
      | cons d word => exact laid_close (List.cons_ne_nil d word) .nil
  | cons c cs ih =>
      rw [splitWords]
      split
      · rename_i hblank
        cases word with
        | nil => exact .gap hblank (ih [] (start + 1))
        | cons d word =>
            refine laid_close (List.cons_ne_nil d word) (.gap hblank ?_)
            exact ih [] (start + (d :: word).length + 1)
      · have hnext := ih (c :: word) start
        rwa [List.reverse_cons, List.append_assoc] at hnext

end Words

section Lexemes

variable {l : Lexeme} {before : Option Char} {start : Nat} {cs : List Char}

/-- The character that a lexeme has at a place. -/
def Lexeme.HasAt (l : Lexeme) (i : Nat) (c : Char) : Prop :=
  l.start ≤ i ∧ l.raw[i - l.start]? = some c

/-- A lexeme leaves out its blanks if it is of white space or of words, and a remark leaves out
all of its characters. -/
inductive Lexeme.LeavesOut (l : Lexeme) (c : Char) : Prop
  | space (hkind : l.kind = .space) (hblank : isBlank c = true)
  | remark (hkind : l.kind = .remark)
  | words (hkind : l.kind = .words) (hblank : isBlank c = true)

/-- A lexeme that is one token is spelled as it stands if it is not quoted. -/
theorem laid_whole {Gap : Nat → Char → Prop} {kind : TokenKind} (hne : l.raw ≠ [])
    (hstring : kind ≠ .string) (hname : kind ≠ .quotedName) :
    Laid Gap l.start l.raw [⟨kind, String.ofList l.raw, l.start, l.start + l.raw.length⟩] := by
  have hspelled : SpelledBy l.raw
      ⟨kind, String.ofList l.raw, l.start, l.start + l.raw.length⟩ := by
    refine ⟨fun _ _ => String.toList_ofList.symm, ?_⟩
    rintro (hkind | hkind)
    · exact absurd hkind hstring
    · exact absurd hkind hname
  have hlaid : Laid Gap l.start (l.raw ++ []) _ := .token hne hspelled rfl rfl .nil
  rwa [List.append_nil] at hlaid

theorem punctuationKind_ne (raw : List Char) :
    punctuationKind raw ≠ .string ∧ punctuationKind raw ≠ .quotedName := by
  unfold punctuationKind
  split <;> decide

theorem quotedToken_kind (raw : List Char) (start : Nat) :
    (quotedToken raw start).kind = .string ∨ (quotedToken raw start).kind = .quotedName := by
  unfold quotedToken
  dsimp only
  split
  · exact .inl rfl
  · exact .inr rfl

theorem laid_quoted {Gap : Nat → Char → Prop} {quote : Char} {tail : List Char}
    (hraw : l.raw = quote :: tail) (hquote : quote ∈ quoteMarks) :
    Laid Gap l.start l.raw [quotedToken l.raw l.start] := by
  have hspelled : SpelledBy l.raw (quotedToken l.raw l.start) := by
    constructor
    · intro hstring hname
      exact absurd (quotedToken_kind l.raw l.start) (not_or.mpr ⟨hstring, hname⟩)
    · intro _
      rw [quotedToken, String.toList_ofList, hraw]
      exact unquoted_unquote hquote
  have hne : l.raw ≠ [] := hraw ▸ List.cons_ne_nil quote tail
  have hlaid : Laid Gap l.start (l.raw ++ []) _ := .token hne hspelled rfl rfl .nil
  rwa [List.append_nil] at hlaid

/-- A lexeme of a text is laid out in its tokens and the characters it leaves out. -/
theorem tokens_laid (h : l ∈ lexemesAt before start cs) :
    Laid (fun _ c => l.LeavesOut c) l.start l.raw l.tokens := by
  obtain ⟨_, first, tail, -, hraw⟩ := exists_found_of_mem h
  have hne : l.raw ≠ [] := hraw ▸ List.cons_ne_nil first _
  unfold Lexeme.tokens
  dsimp only
  split
  next hkind =>
    obtain ⟨c, hc, hblank⟩ := blank_of_space h hkind
    rw [hc]
    exact .gap (.space hkind hblank) .nil
  next hkind => exact .gaps (fun _ _ _ => .remark hkind) _
  next => exact laid_whole hne (by decide) (by decide)
  next hkind =>
    obtain ⟨quote, tail, hraw, hquote⟩ := mem_quoteMarks_of_quoted h hkind
    exact laid_quoted hraw hquote
  next => exact laid_whole hne (by decide) (by decide)
  next =>
    exact laid_whole hne (punctuationKind_ne l.raw).1 (punctuationKind_ne l.raw).2
  next hkind => exact (splitWords_laid [] l.raw l.start).imp fun _ _ _ => .words hkind
  next => exact laid_whole hne (by decide) (by decide)
  next => exact laid_whole hne (by decide) (by decide)
  next => exact laid_whole hne (by decide) (by decide)

/-- A text is laid out in its tokens and the characters that its lexemes leave out. -/
theorem tokensAt_laid (before : Option Char) (start : Nat) (cs : List Char) :
    Laid (fun i c => ∃ l ∈ lexemesAt before start cs, l.HasAt i c ∧ l.LeavesOut c) start cs
      (tokensAt before start cs) := by
  induction before, start, cs using lexing_induction with
  | nil => exact .nil
  | cons before start c cs ih =>
      have hlexemes := @lexemesAt_cons before start c cs
      have htokens := @tokensAt_cons before start c cs
      have hraw := raw_append_drop before start (c :: cs)
      have hstart : (firstLexeme before start (c :: cs)).start = start := rfl
      dsimp only at hlexemes htokens
      generalize firstLexeme before start (c :: cs) = first at *
      have hmem : first ∈ lexemesAt before start (c :: cs) := by
        rw [hlexemes]
        exact List.mem_cons_self
      have hlaid := tokens_laid hmem
      rw [hstart] at hlaid
      rw [htokens]
      -- The text is its first lexeme and what stands behind it, each laid out by itself.
      conv => arg 3; rw [← hraw]
      apply Laid.append
      · apply hlaid.imp
        intro i d hd hleft
        refine ⟨first, hmem, ⟨by omega, ?_⟩, hleft⟩
        rwa [hstart, Nat.add_sub_cancel_left]
      · apply ih.imp
        rintro i d - ⟨l, hl, hleft⟩
        refine ⟨l, ?_, hleft⟩
        rw [hlexemes]
        exact List.mem_cons_of_mem first hl

/-- A blank of a lexeme of words stands between two of its tokens. -/
theorem exists_around {i : Nat} {c : Char} (h : l ∈ lexemesAt before start cs)
    (hwords : l.kind = .words) (hplace : l.HasAt i c)
    (hfree : ∀ t ∈ l.tokens, ¬ (t.start ≤ i ∧ i < t.stop)) :
    ∃ a ∈ l.tokens, ∃ b ∈ l.tokens, a.stop ≤ i ∧ i < b.start := by
  have hlaid := tokens_laid h
  have hsolid {d : Char} (hd : isBlank d = false) : ¬ l.LeavesOut d := by
    rintro (⟨hkind, -⟩ | hkind | ⟨-, hblank⟩)
    · rw [hwords] at hkind
      nomatch hkind
    · rw [hwords] at hkind
      nomatch hkind
    · rw [hd] at hblank
      nomatch hblank
  obtain ⟨hlow, hat⟩ := hplace
  have hhigh := (List.getElem?_eq_some_iff.mp hat).1
  obtain ⟨⟨first, tail, hfirst, hfirstFull⟩, front, last, hlast, hlastFull⟩ :=
    full_of_words h hwords
  have hfirstAt : l.raw[0]? = some first := by rw [hfirst]; rfl
  have hlastAt : l.raw[front.length]? = some last := by
    rw [hlast]
    exact List.getElem?_concat_length
  obtain ⟨a, ha, hastart, hastop⟩ :=
    (hlaid.mem_or_gap hfirstAt).resolve_right (hsolid hfirstFull)
  obtain ⟨b, hb, hbstart, hbstop⟩ :=
    (hlaid.mem_or_gap hlastAt).resolve_right (hsolid hlastFull)
  -- Both ends of the lexeme are in tokens, and the blank is in neither of the two.
  have hlength : l.raw.length = front.length + 1 := by rw [hlast, List.length_append]; rfl
  have hnota := hfree a ha
  have hnotb := hfree b hb
  refine ⟨a, ha, b, hb, ?_, ?_⟩ <;> omega

end Lexemes

/-- What stands in a text at the place of a token. -/
def Token.slice (text : List Char) (t : Token) : List Char := (text.take t.stop).drop t.start

/-- A character is in no token for a reason: it is white space or in a remark, or it is a blank
of a lexeme of several words, between two of its tokens. -/
inductive LeftOut (lexemes : List Lexeme) (i : Nat) (c : Char) : Prop
  | space {l : Lexeme} (hl : l ∈ lexemes) (hplace : l.HasAt i c) (hkind : l.kind = .space)
      (hblank : isBlank c = true)
  | remark {l : Lexeme} {mark : List Char} (hl : l ∈ lexemes) (hplace : l.HasAt i c)
      (hkind : l.kind = .remark) (hmem : mark ∈ remarkMarks) (hmark : mark <+: l.raw)
  | between {l : Lexeme} {a b : Token} (hl : l ∈ lexemes) (hplace : l.HasAt i c)
      (hkind : l.kind = .words) (hblank : isBlank c = true) (ha : a ∈ l.tokens)
      (hb : b ∈ l.tokens) (hbehind : a.stop ≤ i) (hahead : i < b.start)

/-- The tokens of a text account for all of it. -/
structure Accounts (text : List Char) (lexemes : List Lexeme) (tokens : List Token) : Prop where
  within : ∀ t ∈ tokens, t.start < t.stop ∧ t.stop ≤ text.length
  ordered : tokens.Pairwise fun a b => a.stop ≤ b.start
  leftOut : ∀ i c, text[i]? = some c → (∀ t ∈ tokens, ¬ (t.start ≤ i ∧ i < t.stop)) →
    LeftOut lexemes i c
  plain : ∀ t ∈ tokens, t.kind ≠ .string → t.kind ≠ .quotedName →
    t.slice text = t.value.toList
  quoted : ∀ t ∈ tokens, t.kind = .string ∨ t.kind = .quotedName →
    Unquoted (t.slice text) t.value.toList

/-- The tokens of a text have characters of their own, in order. All others are left out for a
reason, and each token is what stands at its place, without its quotes if it has any. -/
theorem tokenize_accounts (text : String) :
    Accounts text.toList (lexemes text.toList) (tokenize text) := by
  have hlaid := tokensAt_laid none 0 text.toList
  rw [← tokenize_eq] at hlaid
  have hspelled := hlaid.spelled
  simp only [Nat.sub_zero] at hspelled
  constructor
  · intro t ht
    obtain ⟨-, hpos, hhigh⟩ := hlaid.within t ht
    rw [Nat.zero_add] at hhigh
    exact ⟨hpos, hhigh⟩
  · exact hlaid.pairwise
  · intro i c hc hfree
    have hplaced := hlaid.mem_or_gap hc
    rw [Nat.zero_add] at hplaced
    have hnone : ¬ ∃ t ∈ tokenize text, t.start ≤ i ∧ i < t.stop :=
      fun ⟨t, ht, hin⟩ => hfree t ht hin
    obtain ⟨l, hl, hplace, hleft⟩ := hplaced.resolve_left hnone
    rcases hleft with ⟨hkind, hblank⟩ | hkind | ⟨hkind, hblank⟩
    · exact .space hl hplace hkind hblank
    · obtain ⟨mark, hmem, hmark⟩ := exists_mark_of_remark hl hkind
      exact .remark hl hplace hkind hmem hmark
    · have htokens : ∀ t ∈ l.tokens, t ∈ tokenize text :=
        fun t ht => List.mem_flatMap.mpr ⟨l, hl, ht⟩
      obtain ⟨a, ha, b, hb, hbehind, hahead⟩ := exists_around hl hkind hplace
        fun t ht => hfree t (htokens t ht)
      exact .between hl hplace hkind hblank ha hb hbehind hahead
  · exact fun t ht => (hspelled t ht).plain
  · exact fun t ht => (hspelled t ht).quoted

end JsonQuery.Sql
