import JsonQuery.Proofs.Query.Silent
import JsonQuery.Proofs.Sql.Piece
import Mathlib.Tactic

/-!
Which texts can be written as the literal of a condition. A text between single quotes, each
single quote in it written twice, is read back exactly unless it has a single quote behind a
backslash. Then the literal ends early, and what is left of the text is either read with it or
makes the condition unclear; in neither case is the literal the text.
-/

namespace JsonQuery

open Outcome Sql

/-- The beginning of a query with a condition on a column, up to its literal. -/
def comparingPieces (comparison : Comparison) : List Piece :=
  [.word "SELECT".toList, .blank ' ', .sign '*', .blank ' ', .word "FROM".toList, .blank ' ',
    .word "data".toList, .blank ' ', .word "WHERE".toList, .blank ' ', .word "c".toList, .blank ' ',
    match comparison with
    | .equals => .operator ['=']
    | .like => .word "LIKE".toList,
    .blank ' ']

/-- The text of a query that compares a column with a literal: the literal in single quotes,
each single quote in it written twice. -/
def comparingText (comparison : Comparison) (literal : String) : String :=
  "SELECT * FROM data WHERE c " ++ comparison.symbol ++ " " ++
    String.ofList (enquote '\'' literal.toList)

variable {comparison : Comparison} {literal : String}

theorem render_comparingPieces :
    render (comparingPieces comparison) =
      "SELECT * FROM data WHERE c ".toList ++ comparison.symbol.toList ++ " ".toList := by
  cases comparison <;> decide

theorem toList_comparingText :
    (comparingText comparison literal).toList =
      render (comparingPieces comparison) ++ enquote '\'' literal.toList := by
  have happend (front symbol space : String) (cs : List Char) :
      (front ++ symbol ++ space ++ String.ofList cs).toList =
        front.toList ++ symbol.toList ++ space.toList ++ cs := by
    simp only [String.toList_append, String.toList_ofList]
  exact (happend _ _ _ _).trans (congrArg (· ++ _) render_comparingPieces.symm)

theorem wellPlaced_comparingPieces (comparison : Comparison) (rest : List Char) :
    WellPlaced (comparingPieces comparison) rest := by
  have hblank (rest : List Char) : Piece.Fits (.blank ' ') rest := .blank rfl
  have hword (word : String) (h : IsLone word.toList) (rest : List Char) :
      Piece.Fits (.word word.toList) (' ' :: rest) := .word h rfl
  have hselect := hword "SELECT" (by decide)
  have hfrom := hword "FROM" (by decide)
  have hdata := hword "data" (by decide)
  have hwhere := hword "WHERE" (by decide)
  have hcolumn := hword "c" (by decide)
  have hlike := hword "LIKE" (by decide)
  cases comparison with
  | equals =>
      exact ⟨hselect _, hblank _, .star, hblank _, hfrom _, hblank _, hdata _, hblank _,
        hwhere _, hblank _, hcolumn _, hblank _,
        .operator (List.cons_ne_nil _ _) (by decide) rfl, hblank _, trivial⟩
  | like =>
      exact ⟨hselect _, hblank _, .star, hblank _, hfrom _, hblank _, hdata _, hblank _,
        hwhere _, hblank _, hcolumn _, hblank _, hlike _, hblank _, trivial⟩

theorem tokenize_comparingText (comparison : Comparison) (literal : String) :
    ∃ before start, tokenize (comparingText comparison literal) =
      place 0 (comparingPieces comparison) ++
        tokensAt before start (enquote '\'' literal.toList) := by
  have hplaced := wellPlaced_comparingPieces comparison (enquote '\'' literal.toList)
  have h := tokensAt_render none 0 hplaced.placed (goesOn_extendsPhrase_eq_false rfl)
  rw [← toList_comparingText, ← tokenize_eq] at h
  exact ⟨_, _, h⟩

/-- The sign or word of a comparison in the query. -/
def comparingToken : Comparison → Token
  | .equals => ⟨.operator, "=", 27, 28⟩
  | .like => ⟨.word, "LIKE", 27, 31⟩

/-- The tokens of the query before the literal. -/
def comparingTokens (comparison : Comparison) : List Token :=
  [⟨.word, "SELECT", 0, 6⟩, ⟨.star, "*", 7, 8⟩, ⟨.word, "FROM", 9, 13⟩, ⟨.word, "data", 14, 18⟩,
    ⟨.word, "WHERE", 19, 24⟩, ⟨.word, "c", 25, 26⟩, comparingToken comparison]

theorem place_comparingPieces :
    place 0 (comparingPieces comparison) = comparingTokens comparison := by
  cases comparison <;> decide

/-- The blocks of the query, the condition with some tokens behind the literal and other blocks
behind it. -/
def comparingBlocks (comparison : Comparison) (t : Token) (more : List Token)
    (blocks : List Block) : List Block :=
  ⟨.select, ⟨.word, "SELECT", 0, 6⟩, [⟨.star, "*", 7, 8⟩]⟩ ::
  ⟨.source, ⟨.word, "FROM", 9, 13⟩, [⟨.word, "data", 14, 18⟩]⟩ ::
  ⟨.condition, ⟨.word, "WHERE", 19, 24⟩,
    ⟨.word, "c", 25, 26⟩ :: comparingToken comparison :: t :: more⟩ :: blocks

/-- The condition has the literal and all tokens behind it up to the next clause. -/
theorem cut_comparingTokens (comparison : Comparison) {t : Token} (ht : t.kind = .string)
    (later : List Token) :
    cut (comparingTokens comparison ++ t :: later) =
      comparingBlocks comparison t (cutFrom 0 later).1 (cutFrom 0 later).2 := by
  have hliteral : ∀ word ∈ clauseWords, t.isWord word = false := by
    intro word _
    rw [Token.isWord, Token.isBare, ht]
    rfl
  have hdepth : depthAfter 0 t = 0 := by rw [depthAfter, ht]
  have hoperator : ∀ word ∈ clauseWords, (comparingToken comparison).isWord word = false := by
    cases comparison <;> decide
  have hplain : ∀ t ∈ [(⟨.star, "*", 7, 8⟩ : Token), ⟨.word, "data", 14, 18⟩,
      ⟨.word, "c", 25, 26⟩], ∀ word ∈ clauseWords, t.isWord word = false := by
    decide
  simp only [List.forall_mem_cons] at hplain
  obtain ⟨hstar, hname, hcolumn, -⟩ := hplain
  rw [cut, comparingTokens]
  simp only [List.cons_append, List.nil_append]
  rw [cutFrom_cons_of_clause (rfl : ClauseKind.select.words = _) (by decide),
    cutFrom_cons_of_plain hstar rfl,
    cutFrom_cons_of_clause (rfl : ClauseKind.source.words = _) (by decide),
    cutFrom_cons_of_plain hname rfl,
    cutFrom_cons_of_clause (rfl : ClauseKind.condition.words = _) (by decide),
    cutFrom_cons_of_plain hcolumn rfl,
    cutFrom_cons_of_plain hoperator (by cases comparison <;> rfl),
    cutFrom_cons_of_plain hliteral hdepth]
  rfl

theorem strip_comparingText : Text.strip (comparingText comparison literal) =
    comparingText comparison literal := by
  have hfirst : (comparingText comparison literal).toList =
      'S' :: (comparingText comparison literal).toList.tail := by
    rw [toList_comparingText]
    rfl
  have hlast : (comparingText comparison literal).toList.getLast? = some '\'' := by
    rw [toList_comparingText, enquote, ← List.cons_append, ← List.append_assoc,
      List.getLast?_concat]
  rw [Text.strip, stripWhere_eq_self hfirst (by decide) hlast (by decide), String.ofList_toList]

theorem parse_comparingText {t : Token} {later : List Token} (ht : t.kind = .string)
    (htokens : tokenize (comparingText comparison literal) =
      comparingTokens comparison ++ t :: later) :
    Query.parse (comparingText comparison literal) =
      queryOfBlocks (comparingText comparison literal).toList
        (cut (comparingTokens comparison ++ t :: dropTerminators later)) := by
  have hqueryTokens : queryTokens (comparingText comparison literal) =
      comparingTokens comparison ++ t :: dropTerminators later := by
    rw [queryTokens, strip_comparingText, htokens, dropTerminators_append]
    rw [ht]
    decide
  rw [parse_of_queryTokens hqueryTokens (by decide), hqueryTokens, strip_comparingText]

theorem conditionBody_comparing (comparison : Comparison) {t : Token} (ht : t.kind = .string) :
    ConditionBody [⟨.word, "c", 25, 26⟩, comparingToken comparison, t]
      ⟨"c", comparison, t.value, true⟩ := by
  have hquoted : t.isQuoted = true := by
    rw [Token.isQuoted, ht]
    rfl
  cases comparison with
  | equals =>
      rw [← hquoted]
      exact .equals rfl rfl rfl (.inr (.inr (.inl ht)))
  | like => exact .like rfl (by decide) hquoted

/-- A literal that is one token makes a condition that compares with its value. -/
theorem queryOfBlocks_comparing {t : Token} (ht : t.kind = .string) (text : List Char) :
    ∃ q, queryOfBlocks text (comparingBlocks comparison t [] []) = .ok q ∧
      q.condition = some ⟨"c", comparison, t.value, true⟩ ∧ q.warnings = [] := by
  have hcondition := (readCondition_reads text _).complete _
    (conditionBody_comparing comparison ht)
  exact ⟨queryWith text (comparingBlocks comparison t [] []) (none, []), rfl,
    congrArg Prod.fst hcondition,
    queryWith_warnings_eq_nil.mpr ⟨rfl, rfl, rfl, congrArg Prod.snd hcondition, rfl, rfl, rfl⟩⟩

/-- A condition that compares with some text has it as its literal, and no further tokens. -/
theorem eq_nil_of_condition {t : Token} {more : List Token} {blocks : List Block}
    {text : List Char} {q : Query} (ht : t.kind = .string)
    (h : queryOfBlocks text (comparingBlocks comparison t more blocks) = .ok q)
    (hcondition : q.condition = some ⟨"c", comparison, literal, true⟩) :
    more = [] ∧ t.value = literal := by
  obtain ⟨limit, -, rfl⟩ := queryOfBlocks_eq_ok h
  have hread : (readCondition text
      (⟨.word, "c", 25, 26⟩ :: comparingToken comparison :: t :: more)).1 =
        some ⟨"c", comparison, literal, true⟩ := hcondition
  cases more with
  | nil =>
      rw [(readCondition_reads text _).complete _ (conditionBody_comparing comparison ht)] at hread
      have hliteral := congrArg Condition.literal (Option.some.inj hread)
      exact ⟨rfl, hliteral⟩
  | cons u more => nomatch hread

/-- The tokens that are read of a literal with a single quote behind a backslash: a literal that
stops behind it and the quotes that follow it, and those of what is left. -/
theorem tokensAt_broken {front back : List Char} (hfront : Unescaped '\'' front)
    (hback : back.head? ≠ some '\'') (m : Nat) (before : Option Char) (start : Nat) :
    ∃ t before' start', t.kind = .string ∧
      t.value = String.ofList (front ++ '\\' :: List.replicate (m + 1) '\'') ∧
      tokensAt before start
          (enquote '\'' (front ++ '\\' :: (List.replicate (m + 1) '\'' ++ back))) =
        t :: tokensAt before' start' (double '\'' back ++ ['\'']) := by
  have hquoted := quotedLength?_broken (by decide) hfront hback m
  have hclassify : classify before
      (brokenRaw '\'' front m ++ (double '\'' back ++ ['\''])) =
        (.quoted, (brokenRaw '\'' front m).length) := classify_quoted (.inl rfl) hquoted
  refine ⟨quotedToken (brokenRaw '\'' front m) start, (brokenRaw '\'' front m).getLast?,
    start + (brokenRaw '\'' front m).length, rfl, ?_, ?_⟩
  · rw [quotedToken, unquote_brokenRaw (by decide)]
  · have hne : brokenRaw '\'' front m ≠ [] := List.cons_ne_nil _ _
    rw [enquote_broken (by decide), tokensAt_append hne hclassify]
    rfl

theorem parse_comparing_of_unescaped (comparison : Comparison)
    (h : ¬ ['\\', '\''] <:+: literal.toList) :
    ∃ q, Query.parse (comparingText comparison literal) = .ok q ∧
      q.condition = some ⟨"c", comparison, literal, true⟩ ∧ q.warnings = [] := by
  obtain ⟨before, start, htokens⟩ := tokenize_comparingText comparison literal
  rw [place_comparingPieces] at htokens
  have hencloses : Encloses '\'' literal.toList [] :=
    ⟨h, Option.some_ne_none _ ∘ Eq.symm, fun _ => List.not_mem_nil⟩
  have hliteral : tokensAt before start (enquote '\'' literal.toList ++ []) = _ :=
    hencloses.tokensAt (.inl rfl) start
  rw [List.append_nil] at hliteral
  have hend (before : Option Char) (start : Nat) : tokensAt before start [] = [] := rfl
  have hnone : cutFrom 0 (dropTerminators []) = ([], []) := by
    rw [dropTerminators]
    simp [cutFrom]
  rw [hliteral, hend] at htokens
  have ht : (tokenOf '\'' literal.toList start).kind = .string := rfl
  rw [parse_comparingText ht htokens, cut_comparingTokens comparison ht, hnone]
  obtain ⟨q, hq, hcondition, hquiet⟩ :=
    queryOfBlocks_comparing ht (comparingText comparison literal).toList
  have hvalue : (tokenOf '\'' literal.toList start).value = literal := String.ofList_toList
  rw [hvalue] at hcondition
  exact ⟨q, hq, hcondition, hquiet⟩

/-- Whatever a literal with a single quote behind a backslash is read as, it is another one. -/
theorem unescaped_of_parse_comparing {q : Query}
    (hparse : Query.parse (comparingText comparison literal) = .ok q)
    (hcondition : q.condition = some ⟨"c", comparison, literal, true⟩) :
    ¬ ['\\', '\''] <:+: literal.toList := by
  intro hescape
  obtain ⟨before, start, htokens⟩ := tokenize_comparingText comparison literal
  rw [place_comparingPieces] at htokens
  obtain ⟨front, m, back, hcs, hfront, hback⟩ := exists_escape (not_not.mpr hescape)
  obtain ⟨t, before', start', ht, hvalue, hbroken⟩ :=
    tokensAt_broken hfront hback m before start
  rw [hcs, hbroken] at htokens
  rw [parse_comparingText ht htokens, cut_comparingTokens comparison ht] at hparse
  obtain ⟨hmore, hliteral⟩ := eq_nil_of_condition ht hparse hcondition
  rw [← hliteral, hvalue, String.toList_ofList] at hcs
  obtain rfl : back = [] := by simpa using hcs
  -- The quote that is left over is a token of its own.
  have hquote : tokensAt before' start' ['\''] = [⟨.other, "'", start', start' + 1⟩] := rfl
  have hkept : dropTerminators [⟨.other, "'", start', start' + 1⟩] =
      [⟨.other, "'", start', start' + 1⟩] := rfl
  have hplain : ∀ word ∈ clauseWords,
      (⟨.other, "'", start', start' + 1⟩ : Token).isWord word = false := fun _ _ => rfl
  rw [double_nil, List.nil_append, hquote, hkept, cutFrom_cons_of_plain hplain rfl] at hmore
  exact List.cons_ne_nil _ _ hmore

/-- A text can be written as a literal, compared or matched with, exactly if no single quote in
it stands behind a backslash. -/
theorem parse_comparing_iff (comparison : Comparison) (literal : String) :
    (∃ q, Query.parse (comparingText comparison literal) = .ok q ∧
        q.condition = some ⟨"c", comparison, literal, true⟩ ∧ q.warnings = []) ↔
      ¬ ['\\', '\''] <:+: literal.toList := by
  constructor
  · rintro ⟨q, hparse, hcondition, -⟩
    exact unescaped_of_parse_comparing hparse hcondition
  · exact parse_comparing_of_unescaped comparison

/-- A single quote behind a backslash cannot be written: the literal takes the first of the two
quotes written for it and ends at the second, and the closing quote is left over. -/
theorem parse_comparing_escaped_quote :
    comparingText .equals "\\'" = "SELECT * FROM data WHERE c = '\\'''" ∧
      (∃ q, Query.parse (comparingText .equals "\\'") = .ok q ∧ q.condition = none) ∧
      ¬ ∃ q, Query.parse (comparingText .equals "\\'") = .ok q ∧
        q.condition = some ⟨"c", .equals, "\\'", true⟩ ∧ q.warnings = [] := by
  have hnone : (Query.parse (comparingText .equals "\\'")).toOption.map Query.condition =
      some none := by
    decide +kernel
  obtain ⟨q, hread, hcondition⟩ := Option.map_eq_some_iff.mp hnone
  have hparse := toOption_eq_some.mp hread
  refine ⟨by decide +kernel, ⟨q, hparse, hcondition⟩, ?_⟩
  rintro ⟨q', hparse', hsome, -⟩
  obtain rfl := Except.ok.inj (hparse.symm.trans hparse')
  exact Option.some_ne_none _ (hsome.symm.trans hcondition)

end JsonQuery
