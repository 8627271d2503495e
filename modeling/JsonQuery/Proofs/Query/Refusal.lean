import JsonQuery.Proofs.Query.Rendering
import Mathlib.Tactic

/-!
Which texts are refused as queries, and why. A text without anything in it is, and so is one
whose tokens do not begin a selection. Every other text is read, whatever its clauses hold, with
one exception: a limit is a number with more digits than can be read. A query with such a limit
can be written, but its text is not read again.
-/

namespace JsonQuery

open Outcome Sql

/-- The tokens of a text begin with the word that starts a selection. -/
def StartsSelection (text : String) : Prop :=
  ∃ first rest, queryTokens text = first :: rest ∧ first.isWord "SELECT" = true

/-- The limit of a query text begins with a run of digits, and there are so many of them, more
than can be read. -/
def OverlongLimit (text : String) (digits : Nat) : Prop :=
  ∃ blocks number rest, Cut (queryTokens text) blocks ∧
    bodyOf? blocks .limit = some (number :: rest) ∧ number.kind = .number ∧
    (∀ c ∈ number.value.toList, Text.isDecimal c = true) ∧
    number.value.toList.length = digits ∧ integerDigitLimit < digits

/-- A text is refused as a query for a reason. -/
inductive Refused (text : String) : Fault → Prop
  | empty (hempty : Text.strip text = "") : Refused text .emptyQuery
  | notSelection (hne : Text.strip text ≠ "") (hselect : ¬ StartsSelection text) :
      Refused text .notSelection
  | overlong {digits : Nat} (hselect : StartsSelection text)
      (hlimit : OverlongLimit text digits) : Refused text (.integerTooLongToRead digits)

section Limits

variable {text : List Char} {tokens : List Token} {blocks : List Block} {fault : Fault}

/-- A limit is read unless it begins with too many digits. -/
theorem readLimit_eq_error : readLimit text tokens = .error fault ↔
    ∃ number rest, tokens = number :: rest ∧ number.kind = .number ∧
      (∀ c ∈ number.value.toList, Text.isDecimal c = true) ∧
      integerDigitLimit < number.value.toList.length ∧
      fault = .integerTooLongToRead number.value.toList.length := by
  constructor
  · intro h
    unfold readLimit at h
    cases tokens with
    | nil => nomatch h
    | cons number rest =>
        dsimp only at h
        split at h
        · nomatch h
        · rename_i hclear
          obtain ⟨hkind, hdigits⟩ : number.kind = .number ∧
              ∀ c ∈ number.value.toList, Text.isDecimal c = true := by
            simpa using hclear
          split at h
          · rename_i hlong
            exact ⟨number, rest, rfl, hkind, hdigits, hlong, (Except.error.inj h).symm⟩
          · nomatch h
  · rintro ⟨number, rest, rfl, hkind, hdigits, hlong, rfl⟩
    rw [readLimit, hkind, List.all_eq_true.mpr hdigits, if_pos hlong]
    rfl

/-- Blocks are read unless their limit cannot be. -/
theorem queryOfBlocks_eq_error : queryOfBlocks text blocks = .error fault ↔
    ∃ tokens, bodyOf? blocks .limit = some tokens ∧ readLimit text tokens = .error fault := by
  rw [queryOfBlocks_eq, map_eq_error, limitOf]
  cases bodyOf? blocks .limit with
  | none => simp [pure, Except.pure]
  | some tokens => simp

end Limits

section Texts

variable {text : String}

theorem not_startsSelection_of_strip_eq_empty (h : Text.strip text = "") :
    ¬ StartsSelection text := by
  rintro ⟨first, rest, htokens, -⟩
  rw [queryTokens, h] at htokens
  cases htokens

theorem parse_eq_emptyQuery (h : Text.strip text = "") :
    Query.parse text = .error .emptyQuery := by
  unfold Query.parse
  dsimp only
  rw [h]
  rfl

theorem parse_eq_notSelection (hne : Text.strip text ≠ "") (h : ¬ StartsSelection text) :
    Query.parse text = .error .notSelection := by
  have hsome : (Text.strip text).isEmpty = false := by
    rw [Bool.eq_false_iff]
    exact fun hempty => hne (String.isEmpty_iff.mp hempty)
  unfold Query.parse
  dsimp only
  rw [hsome, if_neg Bool.false_ne_true]
  split
  · rfl
  · rename_i first rest htokens
    rw [if_neg fun hselect => h ⟨first, rest, htokens, hselect⟩]

/-- A text that starts a selection is read unless its limit cannot be. -/
theorem parse_eq_error_of_startsSelection {fault : Fault} (h : StartsSelection text) :
    Query.parse text = .error fault ↔
      ∃ digits, OverlongLimit text digits ∧ fault = .integerTooLongToRead digits := by
  obtain ⟨first, rest, htokens, hselect⟩ := h
  have hcut : ∀ blocks, Cut (queryTokens text) blocks ↔ cut (queryTokens text) = blocks :=
    fun _ => cut_iff ⟨.select, [first], rest, htokens, .cons hselect .nil⟩
  rw [parse_of_queryTokens htokens hselect, queryOfBlocks_eq_error]
  constructor
  · rintro ⟨tokens, hbody, hread⟩
    obtain ⟨number, later, rfl, hkind, hdigits, hlong, rfl⟩ := readLimit_eq_error.mp hread
    exact ⟨_, ⟨_, number, later, (hcut _).mpr rfl, hbody, hkind, hdigits, rfl, hlong⟩, rfl⟩
  · rintro ⟨digits, ⟨blocks, number, later, hblocks, hbody, hkind, hdigits, rfl, hlong⟩, rfl⟩
    obtain rfl := (hcut _).mp hblocks
    exact ⟨_, hbody, readLimit_eq_error.mpr ⟨number, later, rfl, hkind, hdigits, hlong, rfl⟩⟩

theorem parse_eq_error {fault : Fault} : Query.parse text = .error fault ↔ Refused text fault := by
  by_cases hempty : Text.strip text = ""
  · rw [parse_eq_emptyQuery hempty]
    constructor
    · rintro ⟨⟩
      exact .empty hempty
    · rintro (_ | ⟨hne, -⟩ | ⟨hselect, -⟩)
      · rfl
      · exact absurd hempty hne
      · exact absurd hselect (not_startsSelection_of_strip_eq_empty hempty)
  · by_cases hselect : StartsSelection text
    · rw [parse_eq_error_of_startsSelection hselect]
      constructor
      · rintro ⟨digits, hlimit, rfl⟩
        exact .overlong hselect hlimit
      · rintro (hblank | ⟨-, hnone⟩ | ⟨-, hlimit⟩)
        · exact absurd hblank hempty
        · exact absurd hselect hnone
        · exact ⟨_, hlimit, rfl⟩
    · rw [parse_eq_notSelection hempty hselect]
      constructor
      · rintro ⟨⟩
        exact .notSelection hempty hselect
      · rintro (hblank | _ | ⟨hstarts, -⟩)
        · exact absurd hblank hempty
        · rfl
        · exact absurd hstarts hselect

/-- A text is refused for a reason exactly if the reason holds: it is empty, it does not start a
selection, or its limit has too many digits. Every other text is read as a query. -/
theorem parse_outcome (text : String) :
    (∀ fault, Query.parse text = .error fault ↔ Refused text fault) ∧
      ((∃ q, Query.parse text = .ok q) ↔
        StartsSelection text ∧ ∀ digits, ¬ OverlongLimit text digits) ∧
      Fault.emptyQuery.message = "Query is empty" := by
  refine ⟨fun _ => parse_eq_error, ⟨?_, ?_⟩, rfl⟩
  · rintro ⟨q, hq⟩
    have hread (fault : Fault) : ¬ Refused text fault := by
      intro hrefused
      have hfault := parse_eq_error.mpr hrefused
      rw [hq] at hfault
      nomatch hfault
    have hselect : StartsSelection text := by
      obtain ⟨first, rest, htokens, hselect, -⟩ := parse_eq_ok hq
      exact ⟨first, rest, htokens, hselect⟩
    exact ⟨hselect, fun digits hlimit => hread _ (.overlong hselect hlimit)⟩
  · rintro ⟨hselect, hlimit⟩
    cases hparse : Query.parse text with
    | ok q => exact ⟨q, rfl⟩
    | error fault =>
        obtain ⟨digits, hoverlong, -⟩ := (parse_eq_error_of_startsSelection hselect).mp hparse
        exact absurd hoverlong (hlimit digits)

end Texts

section Overlong

variable {q : Query} {selection : List Piece} {n : Nat}

theorem length_toDigits_pow (k : Nat) : (Nat.toDigits 10 (10 ^ k)).length = k + 1 := by
  induction k with
  | zero => rfl
  | succ k ih =>
      have hten : 10 ≤ 10 ^ (k + 1) := Nat.le_self_pow (Nat.succ_ne_zero k) 10
      rw [Nat.toDigits_of_base_le (by decide) hten, Nat.pow_succ,
        Nat.mul_div_cancel _ (by decide), List.length_append, ih]
      rfl

/-- A query with a limit too long to be read can be written, but its text is refused. -/
theorem parse_toSql_of_overlong (hplain : q.Plain) (hselects : Selects q.projection selection)
    (hwritable : ∀ c, q.condition = some c → Writable c) (hlimit : q.limit = some n)
    (hlong : 10 ^ integerDigitLimit ≤ n) :
    Query.parse q.toSql = .error (.integerTooLongToRead (Nat.toDigits 10 n).length) := by
  have hready := ready_clauses hplain hselects.ready hwritable
  obtain ⟨blocks, hparse, hfound⟩ := parse_of_ready hready (hplain.toList_toSql hselects.render)
  have hbody := hfound .limit
  rw [Query.body?, hlimit] at hbody
  obtain ⟨tokens, htokens, front, back, -, rfl⟩ := hbody
  have hdigits : (String.ofList (toString n).toList).toList = Nat.toDigits 10 n := by
    rw [String.toList_ofList, Nat.toString_eq_repr, Nat.toList_repr]
  have htoo : integerDigitLimit < (Nat.toDigits 10 n).length := by
    by_contra hfew
    exact absurd ((Nat.length_toDigits_le_iff (by decide) (by decide)).mp (Nat.not_lt.mp hfew))
      (Nat.not_lt.mpr hlong)
  rw [hparse, queryOfBlocks_eq_error]
  refine ⟨_, htokens, readLimit_eq_error.mpr ⟨_, [], rfl, rfl, ?_, ?_, ?_⟩⟩
  · rw [hdigits]
    exact fun c hc => isDecimal_of_mem_toDigits hc
  · rwa [hdigits]
  · rw [hdigits]

/-- The query for the first rows of a source. -/
def Query.firstRows (source : String) (n : Nat) : Query where
  text := ""
  projection := .everything
  source := some source
  condition := none
  grouping := []
  order := none
  limit := some n
  warnings := []

theorem plain_firstRows {source : String} (h : PlainName source) (n : Nat) :
    (Query.firstRows source n).Plain := by
  constructor
  · exact fun hnone => nomatch hnone
  · exact fun hlisted => nomatch hlisted
  · rintro name ⟨⟩
    exact h
  · exact fun c hc => nomatch hc
  · exact fun c hc => nomatch hc
  · exact fun name hname => nomatch hname
  · exact fun key hkey => nomatch hkey

theorem toSql_firstRows {source : String} (h : PlainName source) (n : Nat) :
    (Query.firstRows source n).toSql =
      "SELECT * FROM " ++ source ++ " LIMIT " ++ toString n := by
  have hsource : source.isEmpty = false :=
    Bool.eq_false_iff.mpr fun hempty => h.ne_empty (String.isEmpty_iff.mp hempty)
  have hclauses : (Query.firstRows source n).clauseTexts =
      ["SELECT *", "FROM " ++ source, "LIMIT " ++ toString n] := by
    dsimp only [Query.clauseTexts, Query.firstRows]
    rw [hsource]
    rfl
  rw [Query.toSql, hclauses]
  apply String.ext
  simp

/-- The text of a query for as many first rows as a large power of ten says is refused. -/
theorem parse_firstRows_pow {source : String} {k : Nat} (hsource : PlainName source)
    (hk : integerDigitLimit ≤ k) :
    Query.parse ("SELECT * FROM " ++ source ++ " LIMIT " ++ toString (10 ^ k)) =
      .error (.integerTooLongToRead (k + 1)) := by
  rw [← toSql_firstRows hsource, ← length_toDigits_pow k]
  exact parse_toSql_of_overlong (plain_firstRows hsource _) .everything
    (fun c hc => nomatch hc) rfl (Nat.pow_le_pow_right (by decide) hk)

theorem parse_data_pow {k : Nat} (hk : integerDigitLimit ≤ k) :
    Query.parse ("SELECT * FROM data LIMIT " ++ toString (10 ^ k)) =
      .error (.integerTooLongToRead (k + 1)) := by
  have hdata : PlainName "data" := ⟨by decide +kernel, by decide +kernel⟩
  have hfront : "SELECT * FROM " ++ "data" ++ " LIMIT " = "SELECT * FROM data LIMIT " := rfl
  have hparse := parse_firstRows_pow hdata hk
  rwa [hfront] at hparse

/-- A selection with a limit of 4301 digits is refused, though it starts a selection. -/
theorem parse_overlong_limit :
    let text := "SELECT * FROM data LIMIT " ++ toString (10 ^ 4300)
    Text.strip text ≠ "" ∧ StartsSelection text ∧
      Query.parse text = .error (.integerTooLongToRead 4301) := by
  intro text
  have hparse : Query.parse text = .error (.integerTooLongToRead 4301) :=
    parse_data_pow (k := 4300) le_rfl
  have hselect : StartsSelection text := by
    cases parse_eq_error.mp hparse with
    | overlong hselect _ => exact hselect
  exact ⟨fun hempty => not_startsSelection_of_strip_eq_empty hempty hselect, hselect, hparse⟩

end Overlong

end JsonQuery
