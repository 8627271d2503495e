import JsonQuery.Sql.Token
import Mathlib.Tactic

/-!
Lexing one lexeme after the other. Where a rule answers the length of what stands at the front
of a text, that is the first lexeme, and the others are those of the rest. Every lexeme is the
first one of the text from its place on.
-/

namespace JsonQuery.Sql

/-- The lexemes of a text that begins at a place behind a character. -/
def lexemesAt (before : Option Char) (start : Nat) (cs : List Char) : List Lexeme :=
  lexemesFrom cs.length before start cs

/-- The tokens of a text that begins at a place behind a character. -/
def tokensAt (before : Option Char) (start : Nat) (cs : List Char) : List Token :=
  (lexemesAt before start cs).flatMap Lexeme.tokens

/-- The lexeme at the front of a text. -/
def firstLexeme (before : Option Char) (start : Nat) (cs : List Char) : Lexeme :=
  ⟨(classify before cs).1, cs.take (max 1 (classify before cs).2), start⟩

theorem tokenize_eq (text : String) : tokenize text = tokensAt none 0 text.toList := rfl

variable {before : Option Char} {start : Nat} {cs : List Char}

/-- A bound above the length of the text changes nothing. -/
theorem lexemesFrom_congr {n m : Nat} (hn : cs.length ≤ n) (hm : cs.length ≤ m) :
    lexemesFrom n before start cs = lexemesFrom m before start cs := by
  induction n generalizing m before start cs with
  | zero =>
      have hnil : cs = [] := List.length_eq_zero_iff.mp (Nat.le_zero.mp hn)
      rw [hnil]
      cases m <;> rfl
  | succ n ih =>
      cases cs with
      | nil => cases m <;> rfl
      | cons c cs =>
          cases m with
          | zero => simp at hm
          | succ m =>
              simp only [lexemesFrom]
              congr 1
              apply ih
              · simp only [List.length_drop, List.length_cons] at hn ⊢
                omega
              · simp only [List.length_drop, List.length_cons] at hm ⊢
                omega

theorem raw_append_drop (before : Option Char) (start : Nat) (cs : List Char) :
    (firstLexeme before start cs).raw ++ cs.drop (firstLexeme before start cs).raw.length = cs :=
  List.prefix_iff_eq_append.mp (List.take_prefix _ _)

theorem raw_firstLexeme (before : Option Char) (start : Nat) (c : Char) (cs : List Char) :
    (firstLexeme before start (c :: cs)).raw =
      c :: cs.take ((classify before (c :: cs)).2 - 1) := by
  have hmax : max 1 (classify before (c :: cs)).2 = (classify before (c :: cs)).2 - 1 + 1 := by
    omega
  rw [firstLexeme, hmax, List.take_succ_cons]

theorem lexemesAt_cons (c : Char) (cs : List Char) :
    lexemesAt before start (c :: cs) =
      let first := firstLexeme before start (c :: cs)
      first :: lexemesAt first.raw.getLast? (start + first.raw.length)
        ((c :: cs).drop first.raw.length) := by
  have hraw := raw_firstLexeme before start c cs
  have hdrop (n : Nat) : (c :: cs).drop (c :: cs.take n).length = cs.drop n := by
    rw [List.length_cons, List.drop_succ_cons, List.length_take]
    rcases Nat.le_total n cs.length with h | h
    · rw [Nat.min_eq_left h]
    · rw [Nat.min_eq_right h, List.drop_length, List.drop_eq_nil_of_le h]
  dsimp only
  rw [hraw, hdrop, lexemesAt, List.length_cons, lexemesFrom]
  dsimp only
  rw [lexemesFrom_congr (m := (cs.drop ((classify before (c :: cs)).2 - 1)).length) ?_ le_rfl]
  · rw [← hraw]
    rfl
  · rw [List.length_drop]
    exact Nat.sub_le _ _

theorem tokensAt_cons (c : Char) (cs : List Char) :
    tokensAt before start (c :: cs) =
      let first := firstLexeme before start (c :: cs)
      first.tokens ++ tokensAt first.raw.getLast? (start + first.raw.length)
        ((c :: cs).drop first.raw.length) := by
  rw [tokensAt, lexemesAt_cons]
  rfl

/-- What the rules find at the front of a text is its first lexeme. -/
theorem lexemesAt_append {kind : LexemeKind} {raw rest : List Char} (hne : raw ≠ [])
    (h : classify before (raw ++ rest) = (kind, raw.length)) :
    lexemesAt before start (raw ++ rest) =
      ⟨kind, raw, start⟩ :: lexemesAt raw.getLast? (start + raw.length) rest := by
  have hlength : max 1 raw.length = raw.length :=
    Nat.max_eq_right (List.length_pos_iff.mpr hne)
  have hfirst : firstLexeme before start (raw ++ rest) = ⟨kind, raw, start⟩ := by
    rw [firstLexeme, h, hlength, List.take_left]
  obtain ⟨c, cs, rfl⟩ := List.exists_cons_of_ne_nil hne
  rw [List.cons_append] at hfirst ⊢
  rw [lexemesAt_cons, hfirst]
  dsimp only
  rw [← List.cons_append, List.drop_left]

theorem tokensAt_append {kind : LexemeKind} {raw rest : List Char} (hne : raw ≠ [])
    (h : classify before (raw ++ rest) = (kind, raw.length)) :
    tokensAt before start (raw ++ rest) =
      Lexeme.tokens ⟨kind, raw, start⟩ ++ tokensAt raw.getLast? (start + raw.length) rest := by
  rw [tokensAt, lexemesAt_append hne h, List.flatMap_cons, tokensAt]

theorem length_firstLexeme_pos (before : Option Char) (start : Nat) (c : Char) (cs : List Char) :
    0 < (firstLexeme before start (c :: cs)).raw.length := by
  rw [firstLexeme, List.length_take, List.length_cons]
  omega

/-- What holds of no text, and of a text if it holds of the text behind its first lexeme, holds
of every text. -/
theorem lexing_induction {motive : Option Char → Nat → List Char → Prop}
    (nil : ∀ before start, motive before start [])
    (cons : ∀ before start c cs,
      motive (firstLexeme before start (c :: cs)).raw.getLast?
        (start + (firstLexeme before start (c :: cs)).raw.length)
        ((c :: cs).drop (firstLexeme before start (c :: cs)).raw.length) →
      motive before start (c :: cs))
    (before : Option Char) (start : Nat) (cs : List Char) : motive before start cs := by
  induction hlength : cs.length using Nat.strong_induction_on generalizing before start cs with
  | _ length ih =>
      cases cs with
      | nil => exact nil before start
      | cons c cs =>
          apply cons
          refine ih _ ?_ _ _ _ rfl
          have hpos := length_firstLexeme_pos before start c cs
          rw [← hlength, List.length_drop]
          simp only [List.length_cons]
          omega

/-- A lexeme of a text is the first one of the text from its place on. -/
theorem eq_firstLexeme_of_mem {l : Lexeme} (h : l ∈ lexemesAt before start cs) :
    ∃ behind front rest, cs = front ++ rest ∧ rest ≠ [] ∧ l.start = start + front.length ∧
      l = firstLexeme behind l.start rest := by
  induction before, start, cs using lexing_induction with
  | nil before start => nomatch h
  | cons before start c cs ih =>
      rw [lexemesAt_cons] at h
      rcases List.mem_cons.mp h with rfl | hlater
      · exact ⟨before, [], c :: cs, rfl, List.cons_ne_nil _ _, rfl, rfl⟩
      · obtain ⟨behind, front, rest, hcs, hrest, hstart, hl⟩ := ih hlater
        refine ⟨behind, (firstLexeme before start (c :: cs)).raw ++ front, rest, ?_, hrest, ?_, hl⟩
        · rw [List.append_assoc, ← hcs, raw_append_drop]
        · rw [hstart, List.length_append, Nat.add_assoc]

end JsonQuery.Sql
