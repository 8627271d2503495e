import JsonQuery.Proofs.Number.Reading
import JsonQuery.Proofs.Query.Reading
import Mathlib.Tactic

/-!
The bodies of the clauses a query is written with, as pieces. Each of them can stand in a query,
and its tokens are a body of its clause that denotes what it was written for: a name that is a
plain word, names with commas between them, a condition with a literal that can be written, a
sort key with its direction, and the digits of a limit.
-/

namespace JsonQuery

open Outcome Sql

section Words

variable {name word : String} {t : Token}

/-- The token of a word that stands by itself. -/
structure WordToken (name : String) (t : Token) : Prop where
  kind : t.kind = .word
  value : t.value = name

theorem exists_wordToken (name : String) (start : Nat) :
    ∃ t, Piece.tokens start (.word name.toList) = [t] ∧ WordToken name t :=
  ⟨_, rfl, rfl, String.ofList_toList⟩

theorem WordToken.isWord (h : WordToken name t) (word : String) :
    t.isWord word = (Text.upper name == word) := by
  rw [Token.isWord, Token.isBare, h.kind, Token.upper, h.value]
  rfl

theorem WordToken.isWord_eq_false (h : WordToken name t) (hword : Text.upper name ≠ word) :
    t.isWord word = false := by
  rw [h.isWord, beq_false_of_ne hword]

theorem WordToken.isWord_eq_true (h : WordToken name t) (hword : Text.upper name = word) :
    t.isWord word = true := by
  rw [h.isWord, hword, BEq.rfl]

theorem WordToken.isName (h : WordToken name t) : t.isName = true := by
  rw [Token.isName, h.kind]
  rfl

/-- The name is no keyword by itself. -/
def IsFree (name : String) : Prop := ∀ word ∈ openers, Text.upper name ≠ word

theorem IsFree.isWord_eq_false (h : IsFree name) (ht : WordToken name t) :
    ∀ word ∈ openers, t.isWord word = false :=
  fun word hword => ht.isWord_eq_false (h word hword)

theorem IsFree.segment (h : IsFree name) : Segment [.word name.toList] := by
  have hplace (start : Nat) : ∃ t, place start [.word name.toList] = [t] ∧ WordToken name t :=
    exists_wordToken name start
  refine ⟨⟨fun _ => rfl, ?_⟩, ?_⟩
  · intro start rest hrest
    obtain ⟨t, ht, hword⟩ := hplace start
    rw [ht]
    exact .cons_plain (h.isWord_eq_false hword) hrest (.nil _ _)
  · intro start
    obtain ⟨t, ht, hword⟩ := hplace start
    rw [ht]
    refine NoComma.cons_iff.mpr ⟨fun hcomma => ?_, .nil _⟩
    rw [hword.kind] at hcomma
    nomatch hcomma

theorem PlainName.isFree (h : PlainName name) : IsFree name := h.free

theorem PlainName.entry (h : PlainName name) : Entry [.word name.toList] := by
  have hsegment := h.isFree.segment
  refine ⟨⟨?_, ⟨[], _, rfl, rfl⟩, hsegment.closed, hsegment.noClause⟩, hsegment.single⟩
  exact fun rest hrest => ⟨.word h.lone (endsOr_of_breaks rfl rfl hrest), trivial⟩

end Words

section Names

variable {names : List String}

/-- The pieces of names with commas between them. -/
def namePieces (names : List String) : List Piece :=
  commaGap.intercalate (names.map fun name => [.word name.toList])

theorem entry_of_mem (h : ∀ name ∈ names, PlainName name) :
    ∀ part ∈ names.map fun name => [Piece.word name.toList], Entry part := by
  intro part hpart
  obtain ⟨name, hname, rfl⟩ := List.mem_map.mp hpart
  exact (h name hname).entry

theorem ready_names (h : ∀ name ∈ names, PlainName name) (hne : names ≠ []) :
    Ready (namePieces names) := by
  have hparts : (names.map fun name => [Piece.word name.toList]) ≠ [] := by simpa using hne
  exact ready_intercalate (entry_of_mem h) hparts

theorem segment_of_mem (h : ∀ name ∈ names, IsFree name) :
    ∀ part ∈ names.map fun name => [Piece.word name.toList], Segment part := by
  intro part hpart
  obtain ⟨name, hname, rfl⟩ := List.mem_map.mp hpart
  exact (h name hname).segment

theorem sealed_names (h : ∀ name ∈ names, IsFree name) : Sealed (namePieces names) :=
  sealed_intercalate (segment_of_mem h)

theorem sourceBody_name (name : String) (start : Nat) :
    SourceBody (place start [.word name.toList]) name := by
  obtain ⟨t, ht, hword⟩ := exists_wordToken name start
  have hbody : SourceBody [t] t.value := .name hword.isName
  rw [place, place, List.append_nil, ht]
  rwa [hword.value] at hbody

theorem groupingBody_names (h : ∀ name ∈ names, IsFree name) (hne : names ≠ []) (start : Nat) :
    GroupingBody (place start (namePieces names)) names := by
  have hparts : (names.map fun name => [Piece.word name.toList]) ≠ [] := by simpa using hne
  obtain ⟨segments, hsegments, hstands⟩ := exists_segments (segment_of_mem h) hparts start
  refine groupingBody_of_segments hsegments ?_
  rw [List.forall₂_map_left_iff] at hstands
  generalize commaGap.intercalate _ = ps at hstands
  clear hsegments hparts hne h
  induction hstands with
  | nil => rfl
  | @cons name segment names segments hsegment _ ih =>
      obtain ⟨front, back, -, rfl⟩ := hsegment
      obtain ⟨t, ht, hword⟩ := exists_wordToken name (start + (render front).length)
      have hname : segmentName? [t] = some name :=
        segmentName?_eq_some.mpr ⟨t, rfl, hword.isName, hword.value⟩
      rw [place, place, List.append_nil, ht, List.mapM_cons, hname, ih]
      rfl

end Names

section Conditions

variable {c : Condition} {name literal : String} {comparison : Comparison}

/-- The piece of a comparison. -/
def Comparison.piece : Comparison → Piece
  | .equals => .operator ['=']
  | .like => .word "LIKE".toList

/-- The piece of a literal: in quotes, a number or a word. -/
def Condition.literalPiece (c : Condition) : Piece :=
  if c.quoted then .quoted '\'' c.literal.toList
  else if IsNumeral c.literal.toList then .number c.literal.toList
  else .word c.literal.toList

/-- The pieces of a condition. -/
def Condition.pieces (c : Condition) : List Piece :=
  [.word c.column.toList, .blank ' ', c.comparison.piece, .blank ' ', c.literalPiece]

/-- The token of a comparison. -/
structure ComparisonToken (comparison : Comparison) (t : Token) : Prop where
  depth : ∀ depth, depthAfter depth t = depth
  other : ∀ word ∈ "BY" :: clauseWords, t.isWord word = false
  equals : comparison = .equals → t.kind = .operator ∧ t.value = "="
  like : comparison = .like → t.isWord "LIKE" = true

theorem Comparison.exists_token (comparison : Comparison) (start : Nat) :
    ∃ t, comparison.piece.tokens start = [t] ∧ ComparisonToken comparison t := by
  cases comparison with
  | equals =>
      exact ⟨_, rfl, fun _ => rfl, fun _ _ => rfl, fun _ => ⟨rfl, rfl⟩, fun h => (nomatch h)⟩
  | like =>
      obtain ⟨t, ht, hword⟩ := exists_wordToken "LIKE" start
      obtain ⟨-, hlike⟩ := writtenWords_facts "LIKE" (by decide)
      have hfree : ∀ word ∈ "BY" :: clauseWords, Text.upper "LIKE" ≠ word := by
        rw [hlike]
        decide
      exact ⟨t, ht, depthAfter_of_isName hword.isName,
        fun word h => hword.isWord_eq_false (hfree word h), fun h => (nomatch h),
        fun _ => hword.isWord_eq_true hlike⟩

theorem Comparison.fits (comparison : Comparison) (rest : List Char) :
    comparison.piece.Fits (' ' :: rest) := by
  cases comparison with
  | equals => exact .operator (List.cons_ne_nil _ _) (by decide) rfl
  | like => exact .word (writtenWords_facts "LIKE" (by decide)).1 rfl

theorem not_isNumeral_of_isLone {w : List Char} (h : IsLone w) : ¬ IsNumeral w := by
  intro hnumeral
  obtain ⟨c, tail, rfl, hc | ⟨rfl, -⟩⟩ := hnumeral.exists_head
  · have hname : Text.isDecimal c = false := h.name
    rw [hc] at hname
    exact Bool.false_ne_true hname.symm
  · exact absurd (h.word '-' List.mem_cons_self) (by decide)

theorem literalPiece_name {column : String} (h : PlainName literal) :
    Condition.literalPiece ⟨column, comparison, literal, false⟩ = .word literal.toList := by
  rw [Condition.literalPiece, if_neg Bool.false_ne_true, if_neg (not_isNumeral_of_isLone h.lone)]

theorem literalPiece_number {column : String} (h : IsNumeral literal.toList) :
    Condition.literalPiece ⟨column, comparison, literal, false⟩ = .number literal.toList := by
  rw [Condition.literalPiece, if_neg Bool.false_ne_true, if_pos h]

/-- The token of the literal of a condition. -/
structure LiteralOf (c : Condition) (t : Token) : Prop where
  literal : LiteralToken t
  value : t.value = c.literal
  quoted : t.isQuoted = c.quoted
  depth : ∀ depth, depthAfter depth t = depth
  free : ∀ word ∈ openers, t.isWord word = false

theorem Writable.exists_token (h : Writable c) (start : Nat) :
    ∃ t, c.literalPiece.tokens start = [t] ∧ LiteralOf c t := by
  cases h with
  | @quoted _ literal _ hlast =>
      exact ⟨tokenOf '\'' literal.toList start, rfl, .inr (.inr (.inl rfl)),
        String.ofList_toList, rfl, fun _ => rfl, fun _ _ => rfl⟩
  | @name _ literal hname =>
      obtain ⟨t, ht, hword⟩ := exists_wordToken literal start
      rw [literalPiece_name hname]
      refine ⟨t, ht, .inl hword.kind, hword.value, ?_, depthAfter_of_isName hword.isName,
        hname.isFree.isWord_eq_false hword⟩
      rw [Token.isQuoted, hword.kind]
      rfl
  | number hnumeral =>
      rw [literalPiece_number hnumeral]
      exact ⟨_, rfl, .inr (.inr (.inr rfl)), String.ofList_toList, rfl, fun _ => rfl,
        fun _ _ => rfl⟩

theorem Writable.fits (h : Writable c) (hquote : c.quoted = true → '\'' ∉ c.literal.toList)
    {rest : List Char} (hrest : breaks rest = true) : c.literalPiece.Fits rest := by
  cases h with
  | quoted hlast =>
      have hnone := hquote rfl
      refine .quoted (.inl rfl) ⟨?_, ?_, fun h => absurd h hlast⟩
      · intro hwithin
        exact hnone (hwithin.subset (by simp))
      · exact head?_ne_iff.mpr (endsOr_of_breaks rfl rfl hrest)
  | name hname =>
      rw [literalPiece_name hname]
      exact .word hname.lone (endsOr_of_breaks rfl rfl hrest)
  | number hnumeral =>
      rw [literalPiece_number hnumeral]
      exact .number hnumeral (endsOr_of_breaks rfl rfl hrest)

/-- The tokens of a condition are its column, its comparison and its literal. -/
theorem Writable.exists_tokens (h : Writable c) (start : Nat) :
    ∃ column operator literal, place start c.pieces = [column, operator, literal] ∧
      WordToken c.column column ∧ ComparisonToken c.comparison operator ∧ LiteralOf c literal := by
  have hplace : place start c.pieces = Piece.tokens start (.word c.column.toList) ++
      (c.comparison.piece.tokens (start + c.column.toList.length + 1) ++
        (c.literalPiece.tokens
          (start + c.column.toList.length + 1 + c.comparison.piece.raw.length + 1) ++ [])) := rfl
  obtain ⟨column, hcolumn, hword⟩ := exists_wordToken c.column start
  obtain ⟨operator, hoperator, hcomparison⟩ :=
    c.comparison.exists_token (start + c.column.toList.length + 1)
  obtain ⟨literal, hliteral, hof⟩ := h.exists_token
    (start + c.column.toList.length + 1 + c.comparison.piece.raw.length + 1)
  rw [hcolumn, hoperator, hliteral] at hplace
  exact ⟨column, operator, literal, hplace, hword, hcomparison, hof⟩

theorem endsSolid_condition (c : Condition) : EndsSolid c.pieces := by
  refine ⟨[_, _, _, _], _, rfl, ?_⟩
  rw [Condition.literalPiece]
  split_ifs <;> rfl

theorem sealed_condition (h : IsFree c.column) (hwritable : Writable c) : Sealed c.pieces := by
  constructor
  · intro start
    obtain ⟨column, operator, literal, hplace, hword, hcomparison, hof⟩ :=
      hwritable.exists_tokens start
    rw [hplace, depthBehind, List.foldl_cons, depthAfter_of_isName hword.isName, List.foldl_cons,
      hcomparison.depth, List.foldl_cons, hof.depth]
    rfl
  · intro start rest hrest
    obtain ⟨column, operator, literal, hplace, hword, hcomparison, hof⟩ :=
      hwritable.exists_tokens start
    obtain ⟨hby, hother⟩ := List.forall_mem_cons.mp hcomparison.other
    rw [hplace]
    refine .cons_plain (h.isWord_eq_false hword) (beginsApart_cons hby) (.cons_other hother ?_)
    exact .cons_plain hof.free hrest (.nil _ _)

theorem ready_condition (h : PlainName c.column) (hwritable : Writable c)
    (hquote : c.quoted = true → '\'' ∉ c.literal.toList) : Ready c.pieces := by
  have hsealed := sealed_condition h.isFree hwritable
  refine ⟨?_, endsSolid_condition c, hsealed.closed, hsealed.noClause⟩
  intro rest hrest
  exact ⟨.word h.lone rfl, .blank rfl, c.comparison.fits _, .blank rfl,
    hwritable.fits hquote hrest, trivial⟩

theorem conditionBody_pieces (h : Writable c) (start : Nat) :
    ConditionBody (place start c.pieces) c := by
  obtain ⟨column, operator, literal, hplace, hword, hcomparison, hof⟩ := h.exists_tokens start
  obtain ⟨name, comparison, value, quoted⟩ := c
  rw [hplace]
  cases comparison with
  | equals =>
      obtain ⟨hkind, hequals⟩ := hcomparison.equals rfl
      have hbody : ConditionBody [column, operator, literal] _ :=
        .equals hword.isName hkind hequals hof.literal
      rwa [hword.value, hof.value, hof.quoted] at hbody
  | like =>
      obtain rfl : quoted = true := by
        cases h
        rfl
      have hbody : ConditionBody [column, operator, literal] _ :=
        .like hword.isName (hcomparison.like rfl) hof.quoted
      rwa [hword.value, hof.value] at hbody

end Conditions

section Keys

variable {key : SortKey}

/-- The pieces of a sort key. -/
def SortKey.pieces (key : SortKey) : List Piece :=
  [.word key.column.toList, .blank ' ', .word key.direction.keyword.toList]

theorem SortKey.exists_tokens (key : SortKey) (start : Nat) :
    ∃ column direction, place start key.pieces = [column, direction] ∧
      WordToken key.column column ∧ WordToken key.direction.keyword direction := by
  have hplace : place start key.pieces = Piece.tokens start (.word key.column.toList) ++
      (Piece.tokens (start + key.column.toList.length + 1) (.word key.direction.keyword.toList) ++
        []) := rfl
  obtain ⟨column, hcolumn, hword⟩ := exists_wordToken key.column start
  obtain ⟨direction, hdirection, hword'⟩ :=
    exists_wordToken key.direction.keyword (start + key.column.toList.length + 1)
  rw [hcolumn, hdirection] at hplace
  exact ⟨column, direction, hplace, hword, hword'⟩

theorem keyword_facts (direction : Direction) : IsLone direction.keyword.toList ∧
    Text.upper direction.keyword = direction.keyword := by
  cases direction with
  | ascending => exact writtenWords_facts "ASC" (by decide)
  | descending => exact writtenWords_facts "DESC" (by decide)

theorem sealed_key (h : IsFree key.column) : Sealed key.pieces := by
  have hdirection : ∀ word ∈ "BY" :: clauseWords, Text.upper key.direction.keyword ≠ word := by
    rw [(keyword_facts key.direction).2]
    cases key.direction <;> decide
  refine ⟨fun _ => rfl, ?_⟩
  intro start rest _
  obtain ⟨column, direction, hplace, hcolumn, hword⟩ := key.exists_tokens start
  have hother : ∀ word ∈ "BY" :: clauseWords, direction.isWord word = false :=
    fun word hmem => hword.isWord_eq_false (hdirection word hmem)
  obtain ⟨hby, hother⟩ := List.forall_mem_cons.mp hother
  rw [hplace]
  refine .cons_plain (h.isWord_eq_false hcolumn) (beginsApart_cons hby) ?_
  exact .cons_other hother (.nil _ _)

theorem ready_key (h : PlainName key.column) : Ready key.pieces := by
  have hsealed := sealed_key h.isFree
  refine ⟨?_, ⟨[_, _], _, rfl, rfl⟩, hsealed.closed, hsealed.noClause⟩
  intro rest hrest
  exact ⟨.word h.lone rfl, .blank rfl,
    .word (keyword_facts key.direction).1 (endsOr_of_breaks rfl rfl hrest), trivial⟩

theorem orderBody_pieces (key : SortKey) (start : Nat) :
    OrderBody (place start key.pieces) key := by
  obtain ⟨t, behind, hplace, hcolumn, hword⟩ := key.exists_tokens start
  obtain ⟨column, direction⟩ := key
  rw [hplace]
  cases direction with
  | ascending =>
      have hasc := (keyword_facts .ascending).2
      have hbody : OrderBody [t, behind] _ :=
        .ascending hcolumn.isName (hword.isWord_eq_true hasc)
      rwa [hcolumn.value] at hbody
  | descending =>
      have hdesc := (keyword_facts .descending).2
      have hbody : OrderBody [t, behind] _ :=
        .descending hcolumn.isName (hword.isWord_eq_true hdesc)
      rwa [hcolumn.value] at hbody

end Keys

section Limits

variable {n : Nat}

theorem ready_limit (n : Nat) : Ready [.number (toString n).toList] := by
  have hdigits : ∀ c ∈ (toString n).toList, Text.isDecimal c = true := by
    intro c hc
    rw [Nat.toString_eq_repr, Nat.toList_repr] at hc
    exact isDecimal_of_mem_toDigits hc
  refine ⟨?_, ⟨[], _, rfl, rfl⟩, fun _ => rfl, ?_⟩
  · intro rest hrest
    exact ⟨.number (.of_digits (by simp) hdigits) (endsOr_of_breaks rfl rfl hrest), trivial⟩
  · exact fun start rest _ => .cons_sign (fun hkind => nomatch hkind) (.nil _ _)

/-- The digits of a limit are read as the number that they denote. -/
theorem readLimit_number (text : List Char) {t : Token} (hkind : t.kind = .number)
    (hdigits : ∀ c ∈ t.value.toList, Text.isDecimal c = true)
    (hlength : t.value.toList.length ≤ integerDigitLimit) :
    readLimit text [t] = .ok (some (natOfDigits t.value.toList), []) := by
  have hall : t.value.toList.all Text.isDecimal = true := List.all_eq_true.mpr hdigits
  simp only [readLimit, hkind, hall, if_neg (Nat.not_lt.mpr hlength)]
  rfl

theorem readLimit_digits (h : n < 10 ^ integerDigitLimit) (text : List Char) (start : Nat) :
    readLimit text (place start [.number (toString n).toList]) = .ok (some n, []) := by
  have hdigits : (String.ofList (toString n).toList).toList = Nat.toDigits 10 n := by
    rw [String.toList_ofList, Nat.toString_eq_repr, Nat.toList_repr]
  have hlength : (Nat.toDigits 10 n).length ≤ integerDigitLimit :=
    (Nat.length_toDigits_le_iff (by decide) (by decide)).mpr h
  rw [place, place, List.append_nil, Piece.tokens, readLimit_number text rfl, hdigits,
    natOfDigits_toDigits]
  · intro c hc
    exact isDecimal_of_mem_toDigits (hdigits ▸ hc)
  · exact hdigits ▸ hlength

end Limits

end JsonQuery
