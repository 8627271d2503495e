import JsonQuery.Proofs.Dataset.Flat
import JsonQuery.Proofs.Query.Bodies
import JsonQuery.Proofs.Query.Selection
import Mathlib.Tactic

/-!
A query for the first rows. Whatever its length, the run of digits behind the keyword is read as
one number, and zeros before its first digit do not count. The answer is that many rows of the
data in their order, or all of them if there are fewer.
-/

namespace JsonQuery

open Outcome Sql

section Numbers

/-- The decimal text of a number with zeros before its first digit. -/
def decimalText (zeros n : Nat) : String := String.ofList (List.replicate zeros '0') ++ toString n

theorem toList_decimalText (zeros n : Nat) :
    (decimalText zeros n).toList = List.replicate zeros '0' ++ Nat.toDigits 10 n := by
  rw [decimalText, String.toList_append, String.toList_ofList, Nat.toString_eq_repr,
    Nat.toList_repr]

theorem isDecimal_of_mem_decimalText {zeros n : Nat} :
    ∀ c ∈ (decimalText zeros n).toList, Text.isDecimal c = true := by
  intro c hc
  rw [toList_decimalText] at hc
  rcases List.mem_append.mp hc with hzero | hdigit
  · rw [List.eq_of_mem_replicate hzero]
    decide
  · exact isDecimal_of_mem_toDigits hdigit

theorem decimalText_ne_nil (zeros n : Nat) : (decimalText zeros n).toList ≠ [] := by
  rw [toList_decimalText]
  exact List.append_ne_nil_of_right_ne_nil _ Nat.toDigits_ne_nil

theorem natOfDigits_decimalText (zeros n : Nat) :
    natOfDigits (decimalText zeros n).toList = n := by
  rw [toList_decimalText]
  induction zeros with
  | zero => exact natOfDigits_toDigits n
  | succ zeros ih => exact ih

end Numbers

section Texts

variable {digits : List Char}

/-- The clauses of a query for the first rows, the limit being a run of digits. -/
def limitPieces (digits : List Char) : List Piece :=
  [.word "SELECT".toList, .blank ' ', .sign '*', .blank ' ', .word "FROM".toList, .blank ' ',
    .word "data".toList, .blank ' ', .word "LIMIT".toList, .blank ' ', .number digits]

theorem toList_limitText (digits : String) :
    ("SELECT * FROM data LIMIT " ++ digits).toList = render (limitPieces digits.toList) := by
  rw [String.toList_append]
  simp [limitPieces, render_cons, Piece.raw]

theorem placed_limitPieces (hne : digits ≠ []) (hdigits : ∀ c ∈ digits, Text.isDecimal c = true) :
    Placed (limitPieces digits) [] := by
  have hword (word : String) (h : IsLone word.toList) (rest : List Char) :
      Piece.Fits (.word word.toList) (' ' :: rest) := .word h rfl
  have hblank (rest : List Char) : Piece.Fits (.blank ' ') rest := .blank rfl
  have hplaced : WellPlaced (limitPieces digits) [] :=
    ⟨hword "SELECT" (by decide) _, hblank _, .star, hblank _, hword "FROM" (by decide) _, hblank _,
      hword "data" (by decide) _, hblank _, hword "LIMIT" (by decide) _, hblank _,
      .number (.of_digits hne hdigits) rfl, trivial⟩
  exact hplaced.placed

theorem strip_limitText {digits : String} (hne : digits.toList ≠ [])
    (hdigits : ∀ c ∈ digits.toList, Text.isDecimal c = true) :
    Text.strip ("SELECT * FROM data LIMIT " ++ digits) = "SELECT * FROM data LIMIT " ++ digits := by
  have htrimmed : Trimmed (limitPieces digits.toList) :=
    ⟨⟨_, _, rfl, rfl⟩, limitPieces digits.toList |>.dropLast, _, rfl, rfl⟩
  rw [Text.strip, toList_limitText, stripWhere_render (placed_limitPieces hne hdigits) htrimmed,
    ← toList_limitText, String.ofList_toList]

/-- A query for the first rows is read as what it is. -/
theorem parse_limitText {digits : String} (hne : digits.toList ≠ [])
    (hdigits : ∀ c ∈ digits.toList, Text.isDecimal c = true)
    (hlength : digits.toList.length ≤ integerDigitLimit) :
    Query.parse ("SELECT * FROM data LIMIT " ++ digits) = .ok
      { text := "SELECT * FROM data LIMIT " ++ digits, projection := .everything
        source := some "data", condition := none, grouping := [], order := none
        limit := some (natOfDigits digits.toList), warnings := [] } := by
  have hstrip := strip_limitText hne hdigits
  let number : Token := ⟨.number, String.ofList digits.toList, 25, 25 + digits.toList.length⟩
  have htokens : queryTokens ("SELECT * FROM data LIMIT " ++ digits) =
      [⟨.word, "SELECT", 0, 6⟩, ⟨.star, "*", 7, 8⟩, ⟨.word, "FROM", 9, 13⟩, ⟨.word, "data", 14, 18⟩,
        ⟨.word, "LIMIT", 19, 24⟩, number] := by
    refine (queryTokens_of_pieces ?_ (placed_limitPieces hne hdigits) terminates_nil).trans rfl
    rw [hstrip, toList_limitText, List.append_nil]
  have hplain : ∀ t ∈ [(⟨.star, "*", 7, 8⟩ : Token), ⟨.word, "data", 14, 18⟩],
      ∀ word ∈ clauseWords, t.isWord word = false := by
    decide
  simp only [List.forall_mem_cons] at hplain
  obtain ⟨hstar, hname, -⟩ := hplain
  have hnumber : ∀ word ∈ clauseWords, number.isWord word = false := fun _ _ => rfl
  -- The keywords cut the text into three clauses, and only the last one holds the digits.
  have hcut : cut (queryTokens ("SELECT * FROM data LIMIT " ++ digits)) =
      [⟨.select, ⟨.word, "SELECT", 0, 6⟩, [⟨.star, "*", 7, 8⟩]⟩,
        ⟨.source, ⟨.word, "FROM", 9, 13⟩, [⟨.word, "data", 14, 18⟩]⟩,
        ⟨.limit, ⟨.word, "LIMIT", 19, 24⟩, [number]⟩] := by
    rw [htokens, cut, cutFrom_cons_of_clause (rfl : ClauseKind.select.words = _) (by decide),
      cutFrom_cons_of_plain hstar rfl,
      cutFrom_cons_of_clause (rfl : ClauseKind.source.words = _) (by decide),
      cutFrom_cons_of_plain hname rfl,
      cutFrom_cons_of_clause (rfl : ClauseKind.limit.words = _) (by decide),
      cutFrom_cons_of_plain hnumber rfl, cutFrom]
  have hvalue : number.value.toList = digits.toList := String.toList_ofList
  have hlimit (text : List Char) : readLimit text [number] =
      .ok (some (natOfDigits number.value.toList), []) :=
    readLimit_number text rfl (hvalue ▸ hdigits) (hvalue ▸ hlength)
  rw [parse_of_queryTokens htokens (by decide), hcut, queryOfBlocks_eq, limitOf]
  change (readLimit _ [number]).map _ = _
  rw [hlimit, hstrip, hvalue]
  refine congrArg Except.ok ?_
  simp only [queryWith, String.ofList_toList]
  rfl

end Texts

section Answers

variable {raw : Value} {url : Option String} {d : Dataset} {zeros n : Nat}

/-- A query for the first rows of data that can be queried answers just these, whatever number it
asks for and with how many zeros the number is written: as many as it asks for, or all if there
are not more. They are the rows of the elements of the data in their order, and there is no
warning. -/
theorem execute_limit (hd : Dataset.ofValue raw url = .ok d) (hquery : d.isQueryable = true)
    (hdigits : (decimalText zeros n).toList.length ≤ 4300) (grouping : Bool) :
    ∃ items answer, raw = .array items ∧ items.mapM Dataset.elementRow = .ok d.rows ∧
      execute grouping (some d) ("SELECT * FROM data LIMIT " ++ decimalText zeros n) =
        .ok ⟨answer, []⟩ ∧
      answer = d.rows.take (min n d.rows.length) ∧
      (n = 0 → answer = []) ∧ (d.rows.length ≤ n → answer = d.rows) := by
  obtain ⟨items, rows, rfl, -, hrows, rfl⟩ | ⟨reason, -, rfl⟩ := Dataset.ofValue_cases hd
  · have hparse := parse_limitText (decimalText_ne_nil zeros n) isDecimal_of_mem_decimalText hdigits
    rw [natOfDigits_decimalText] at hparse
    refine ⟨items, rows.take n, rfl, hrows, ?_, ?_, ?_, List.take_of_length_le⟩
    · rw [execute, hparse]
      refine congrArg (fun shown => Except.ok (QueryResult.mk shown [])) ?_
      exact List.map_id' _
    · exact (List.take_eq_take_min ..)
    · rintro rfl
      exact List.take_zero
  · cases hquery

/-- Of three elements, one of them nested and one that is no object, the first two are asked for
with a number that begins with zeros. -/
theorem execute_limit_leading_zeros :
    let raw : Value := .array [
      .object [("n", .object [("a", .string "x")]), ("t", .array [.bool true, .null])], .ofInt 7,
      .object [("t", .null)]]
    let answer : List Record :=
      [[("n_a", .string "x"), ("t", .string "true, null")], [("value", .ofInt 7)]]
    ∃ d, Dataset.ofValue raw none = .ok d ∧ d.isQueryable = true ∧
      execute true (some d) "SELECT * FROM data LIMIT 002" = .ok ⟨answer, []⟩ := by
  intro raw answer
  let d : Dataset := ⟨raw, none, .ok (answer ++ [[("t", .null)]])⟩
  have hd : Dataset.ofValue raw none = .ok d := by cbv
  have hdigits : (decimalText 2 2).toList.length ≤ 4300 := by decide
  obtain ⟨-, _, -, -, hrun, rfl, -, -⟩ := execute_limit hd rfl hdigits true
  exact ⟨d, hd, rfl, hrun⟩

end Answers

end JsonQuery
