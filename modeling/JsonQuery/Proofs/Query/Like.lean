import JsonQuery.Query.Condition
import Mathlib.Tactic

/-!
Patterns by decomposition. The percent signs of a pattern cut it into pieces, and a text matches
the pattern exactly if it consists of the pieces in their order with any characters between them.
The matcher tries the ends of the text one by one at each percent sign, so both directions rest on
what one such search finds.
-/

namespace JsonQuery

variable {piece text run : List Char} {pieces : List (List Char)} {p : Char}

/-- A text consists of pieces, with one run of any characters between two of them. -/
def Interleaved (pieces : List (List Char)) (text : List Char) : Prop :=
  ∃ first later runs, pieces = first :: later ∧ runs.length = later.length ∧
    text = first ++ (List.zipWith (· ++ ·) runs later).flatten

section Pieces

theorem interleaved_singleton : Interleaved [piece] text ↔ text = piece := by
  constructor
  · rintro ⟨_, _, runs, ⟨⟩, hlength, rfl⟩
    obtain rfl := List.length_eq_zero_iff.mp hlength
    simp
  · rintro rfl
    exact ⟨text, [], [], rfl, rfl, by simp⟩

/-- Behind the first piece stand the first run and the rest. -/
theorem interleaved_cons (hpieces : pieces ≠ []) :
    Interleaved (piece :: pieces) text ↔
      ∃ run rest, text = piece ++ (run ++ rest) ∧ Interleaved pieces rest := by
  constructor
  · rintro ⟨_, _, runs, ⟨⟩, hlength, rfl⟩
    obtain ⟨second, later, rfl⟩ := List.exists_cons_of_ne_nil hpieces
    obtain ⟨run, runs, rfl⟩ := List.exists_cons_of_length_eq_add_one hlength
    refine ⟨run, second ++ (List.zipWith (· ++ ·) runs later).flatten, ?_, second, later, runs,
      rfl, ?_, rfl⟩
    · simp
    · simpa using hlength
  · rintro ⟨run, _, rfl, first, later, runs, rfl, hlength, rfl⟩
    refine ⟨piece, first :: later, run :: runs, rfl, by simp [hlength], ?_⟩
    simp

/-- A character in front of the first piece stands in front of the text. -/
theorem interleaved_modifyHead (hpieces : pieces ≠ []) :
    Interleaved (pieces.modifyHead (p :: ·)) text ↔
      ∃ rest, text = p :: rest ∧ Interleaved pieces rest := by
  obtain ⟨first, later, rfl⟩ := List.exists_cons_of_ne_nil hpieces
  rw [List.modifyHead_cons]
  constructor
  · rintro ⟨_, _, runs, ⟨⟩, hlength, rfl⟩
    exact ⟨_, List.cons_append, first, later, runs, rfl, hlength, rfl⟩
  · rintro ⟨_, rfl, _, _, runs, ⟨⟩, hlength, rfl⟩
    exact ⟨p :: first, later, runs, rfl, hlength, List.cons_append.symm⟩

end Pieces

section Matching

variable {pattern pattern' : List Char}

/-- The search succeeds exactly if the text has an end that the rest matches. -/
theorem spans_iff {matchesRest : List Char → Bool} :
    likeMatches.spans matchesRest text = true ↔
      ∃ run rest, text = run ++ rest ∧ matchesRest rest = true := by
  induction text with
  | nil => simp [likeMatches.spans]
  | cons c text ih =>
      rw [likeMatches.spans, Bool.or_eq_true, ih]
      constructor
      · rintro (hhere | ⟨run, rest, rfl, hlater⟩)
        · exact ⟨[], c :: text, rfl, hhere⟩
        · exact ⟨c :: run, rest, rfl, hlater⟩
      · rintro ⟨run, rest, htext, hrest⟩
        -- the end found is the whole text, or it begins behind the first character
        cases run with
        | nil =>
            left
            rwa [htext]
        | cons _ run =>
            right
            obtain ⟨rfl, rfl⟩ := List.cons.inj htext
            exact ⟨run, rest, rfl, hrest⟩

theorem likeMatches_nil : likeMatches [] text = true ↔ text = [] := by
  simp [likeMatches]

theorem likeMatches_percent :
    likeMatches ('%' :: pattern) text = true ↔
      ∃ run rest, text = run ++ rest ∧ likeMatches pattern rest = true := by
  have hsearch : likeMatches ('%' :: pattern) text =
      likeMatches.spans (likeMatches pattern) text := by
    cases text <;> rfl
  rw [hsearch]
  exact spans_iff

theorem likeMatches_cons (hp : p ≠ '%') :
    likeMatches (p :: pattern) text = true ↔
      ∃ rest, text = p :: rest ∧ likeMatches pattern rest = true := by
  cases text with
  | nil => simp [likeMatches, hp]
  | cons c text => simp [likeMatches, hp, eq_comm (a := c)]

/-- A text matches a pattern exactly if it consists of the pieces of the pattern and something
between them. -/
theorem likeMatches_iff : likeMatches pattern text = true ↔
    Interleaved (pattern.splitOn '%') text := by
  induction pattern generalizing text with
  | nil => rw [likeMatches_nil, List.splitOn_nil, interleaved_singleton]
  | cons p pattern ih =>
      rw [List.splitOn_cons_eq_if_modifyHead]
      by_cases hp : p = '%'
      · subst hp
        rw [if_pos BEq.rfl, likeMatches_percent, interleaved_cons (List.splitOn_ne_nil _ _)]
        simp only [ih, List.nil_append]
      · rw [if_neg (by simpa using hp), likeMatches_cons hp,
          interleaved_modifyHead (List.splitOn_ne_nil _ _)]
        simp only [ih]

/-- What stands in front of two patterns that match alike makes no difference. -/
theorem likeMatches_append (before : List Char) (h : likeMatches pattern = likeMatches pattern') :
    likeMatches (before ++ pattern) = likeMatches (before ++ pattern') := by
  induction before with
  | nil => exact h
  | cons p before ih =>
      funext text
      cases text <;> simp only [List.cons_append, likeMatches, ih]

theorem likeMatches_percent_percent :
    likeMatches ('%' :: '%' :: pattern) = likeMatches ('%' :: pattern) := by
  funext text
  rw [Bool.eq_iff_iff, likeMatches_percent, likeMatches_percent]
  constructor
  · rintro ⟨run, _, rfl, hrest⟩
    obtain ⟨second, rest, rfl, hlast⟩ := likeMatches_percent.mp hrest
    exact ⟨run ++ second, rest, by simp, hlast⟩
  · rintro ⟨run, rest, rfl, hrest⟩
    exact ⟨run, rest, rfl, likeMatches_percent.mpr ⟨[], rest, rfl, hrest⟩⟩

/-- Several percent signs in a row match as one does. -/
theorem likeMatches_replicate (n : ℕ) :
    likeMatches (List.replicate (n + 1) '%' ++ pattern) = likeMatches ('%' :: pattern) := by
  induction n with
  | zero => rfl
  | succ n ih =>
      rw [List.replicate_succ, List.cons_append, ← ih, List.replicate_succ, List.cons_append]
      exact likeMatches_percent_percent

end Matching

/-- Whether a value is like a pattern is always decided. It is exactly if it is a text that
consists of the pieces of the pattern, cut at the percent signs, with any characters between them;
every other character stands for itself. Percent signs in a row act as one, and without any the
pattern matches itself only. -/
theorem Condition.holds_like (column literal : String) (quoted : Bool) (row : Record) :
    ∃ holds, Condition.holds ⟨column, .like, literal, quoted⟩ row = .ok holds ∧
      (holds = true ↔ ∃ s, row.get column = .string s ∧
        Interleaved (literal.toList.splitOn '%') s.toList) ∧
      (∀ before n after, literal.toList = before ++ (List.replicate (n + 1) '%' ++ after) →
        Condition.holds ⟨column, .like, String.ofList (before ++ '%' :: after), quoted⟩ row =
          .ok holds) ∧
      ('%' ∉ literal.toList → (holds = true ↔ row.get column = .string literal)) := by
  have hlike (pattern : String) : (row.get column).isLike pattern = true ↔
      ∃ s, row.get column = .string s ∧ Interleaved (pattern.toList.splitOn '%') s.toList := by
    cases row.get column with
    | string s => simp [Value.isLike, likeMatches_iff]
    | null | bool _ | number _ | array _ | object _ => simp [Value.isLike]
  refine ⟨(row.get column).isLike literal, rfl, hlike literal, ?together, ?plain⟩
  case together =>
    intro before n after hliteral
    change Except.ok ((row.get column).isLike _) = _
    have hsame := likeMatches_append before (@likeMatches_replicate after n)
    cases row.get column with
    | string s => rw [Value.isLike, Value.isLike, String.toList_ofList, hliteral, hsame]
    | null | bool _ | number _ | array _ | object _ => rfl
  case plain =>
    intro hplain
    rw [hlike, List.splitOn_eq_singleton hplain]
    simp only [interleaved_singleton, String.toList_inj]
    constructor
    · rintro ⟨_, hvalue, rfl⟩
      exact hvalue
    · intro hvalue
      exact ⟨literal, hvalue, rfl⟩

example : likeMatches "a%b%b".toList "ab\nb".toList = true := by decide

end JsonQuery
