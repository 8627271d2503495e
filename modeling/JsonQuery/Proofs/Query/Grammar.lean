import JsonQuery.Proofs.Query.Cut
import JsonQuery.Query.Parser
import Mathlib.Tactic

/-!
The grammar of queries. It is given clause by clause, as a relation between the tokens of a
body and what they denote. Every reading of a clause that is not of the grammar falls back to
something with a warning, and the reading of one that is returns what it denotes without one.
The two directions are kept apart in `Reads`, which is proved here for each clause that is read
on its own.
-/

namespace JsonQuery

open Sql

/-- The tokens of a query text, without the semicolons at its end. -/
def queryTokens (text : String) : List Token := dropTerminators (tokenize (Text.strip text))

/-- A value that a column can be compared with. -/
def LiteralToken (t : Token) : Prop :=
  t.kind = .word ∨ t.kind = .quotedName ∨ t.kind = .string ∨ t.kind = .number

/-- A selection list is a star, or entries between commas, none of them empty. -/
inductive SelectBody (text : List Char) : List Token → Projection → Prop
  | everything {t : Token} (hstar : t.kind = .star) : SelectBody text [t] .everything
  | listed {body : List Token} {segments : List (List Token)}
      (hsegments : CommaSegments 0 body segments) (hfull : ∀ segment ∈ segments, segment ≠ [])
      (hentries : ∀ t, body = [t] → t.kind ≠ .star) :
      SelectBody text body (.listed (segments.map fun segment =>
        ⟨sourceText text segment, itemShape segment⟩))

/-- A source is one name. -/
inductive SourceBody : List Token → String → Prop
  | name {t : Token} (hname : t.isName = true) : SourceBody [t] t.value

/-- A condition compares a name with a literal, or matches it with a quoted pattern. -/
inductive ConditionBody : List Token → Condition → Prop
  | equals {column operator literal : Token} (hcolumn : column.isName = true)
      (hkind : operator.kind = .operator) (hvalue : operator.value = "=")
      (hliteral : LiteralToken literal) :
      ConditionBody [column, operator, literal]
        ⟨column.value, .equals, literal.value, literal.isQuoted⟩
  | like {column operator literal : Token} (hcolumn : column.isName = true)
      (hword : operator.isWord "LIKE" = true) (hquoted : literal.isQuoted = true) :
      ConditionBody [column, operator, literal] ⟨column.value, .like, literal.value, true⟩

/-- Grouping columns are names between commas. -/
inductive GroupingBody : List Token → List String → Prop
  | one {t : Token} (hname : t.isName = true) : GroupingBody [t] [t.value]
  | cons {t comma : Token} {rest : List Token} {names : List String} (hname : t.isName = true)
      (hcomma : comma.kind = .comma) (hrest : GroupingBody rest names) :
      GroupingBody (t :: comma :: rest) (t.value :: names)

/-- A sort key is a name, with a direction behind it or without. -/
inductive OrderBody : List Token → SortKey → Prop
  | plain {t : Token} (hname : t.isName = true) : OrderBody [t] ⟨t.value, .ascending⟩
  | ascending {t direction : Token} (hname : t.isName = true)
      (hword : direction.isWord "ASC" = true) : OrderBody [t, direction] ⟨t.value, .ascending⟩
  | descending {t direction : Token} (hname : t.isName = true)
      (hword : direction.isWord "DESC" = true) : OrderBody [t, direction] ⟨t.value, .descending⟩

/-- A limit is one number made of digits. -/
inductive LimitBody : List Token → Nat → Prop
  | digits {t : Token} (hkind : t.kind = .number)
      (hdigits : ∀ c ∈ t.value.toList, Text.isDecimal c = true) :
      LimitBody [t] (natOfDigits t.value.toList)

/-- The tokens are a body of a clause. -/
def ClauseKind.Accepts : ClauseKind → List Token → Prop
  | .select, body =>
      ∃ segments, CommaSegments 0 body segments ∧ ∀ segment ∈ segments, segment ≠ []
  | .source, body => ∃ name, SourceBody body name
  | .condition, body => ∃ condition, ConditionBody body condition
  | .grouping, body => ∃ names, GroupingBody body names
  | .order, body => ∃ key, OrderBody body key
  | .limit, body => ∃ n, LimitBody body n

/-- Blocks are those of a query of the grammar: a selection first, then other clauses in any
order, among them a source, none of them twice, and each with a body of its own. -/
structure Grammatical (blocks : List Block) : Prop where
  selectFirst : ∃ b rest, blocks = b :: rest ∧ b.kind = .select
  once : (blocks.map Block.kind).Nodup
  hasSource : ∃ b ∈ blocks, b.kind = .source
  accepted : ∀ b ∈ blocks, b.kind.Accepts b.body

/-- A part of a query is what the body of its clause denotes, or what it is without the
clause. -/
structure ClauseSpells {α β : Type} (blocks : List Block) (kind : ClauseKind)
    (Body : List Token → α → Prop) (missing : β) (present : α → β) (part : β) : Prop where
  written : ∀ b ∈ blocks, b.kind = kind → ∃ a, Body b.body a ∧ part = present a
  unwritten : (∀ b ∈ blocks, b.kind ≠ kind) → part = missing

/-- The parts of a query are those that the tokens of the blocks spell. -/
structure Spells (text : List Char) (blocks : List Block) (q : Query) : Prop where
  projection : ClauseSpells blocks .select (SelectBody text) .everything id q.projection
  source : ClauseSpells blocks .source SourceBody none some q.source
  condition : ClauseSpells blocks .condition ConditionBody none some q.condition
  grouping : ClauseSpells blocks .grouping GroupingBody [] id q.grouping
  order : ClauseSpells blocks .order OrderBody none some q.order
  limit : ClauseSpells blocks .limit LimitBody none some q.limit

/-- A reading that is silent exactly on the bodies of a clause, and returns there what they
denote. -/
structure Reads {α β : Type} (Body : List Token → α → Prop) (present : α → β)
    (body : List Token) (result : Warned β) : Prop where
  sound : result.2 = [] → ∃ a, Body body a
  complete : ∀ a, Body body a → result = (present a, [])

section Readers

variable (text : List Char) (body : List Token)

theorem readSource_reads : Reads SourceBody some body (readSource text body) := by
  constructor
  · intro hquiet
    cases body with
    | nil => exact absurd hquiet (List.cons_ne_nil _ _)
    | cons name rest =>
        cases hname : name.isName with
        | false =>
            rw [readSource, hname] at hquiet
            exact absurd hquiet (List.cons_ne_nil _ _)
        | true =>
            cases rest with
            | nil => exact ⟨name.value, .name hname⟩
            | cons t rest =>
                rw [readSource, hname] at hquiet
                exact absurd hquiet (List.cons_ne_nil _ _)
  · rintro _ ⟨hname⟩
    rw [readSource, hname]
    rfl

theorem literalToken_iff {t : Token} :
    LiteralToken t ↔ (t.isName || t.kind == .string || t.kind == .number) = true := by
  simp [LiteralToken, Token.isName, or_assoc]

theorem comparison?_eq_some {column operator literal : Token} {c : Condition} :
    comparison? column operator literal = some c ↔
      ConditionBody [column, operator, literal] c := by
  constructor
  · intro h
    unfold comparison? at h
    split at h
    · exact absurd h (Option.some_ne_none c).symm
    · rename_i hcolumn
      have hname : column.isName = true := by simpa using hcolumn
      split at h
      · rename_i hequals
        obtain ⟨hkind, hvalue⟩ := Bool.and_eq_true_iff.mp hequals
        split at h
        · rename_i hliteral
          rw [← Option.some.inj h]
          exact .equals hname (beq_iff_eq.mp hkind) (beq_iff_eq.mp hvalue)
            (literalToken_iff.mpr hliteral)
        · exact absurd h (Option.some_ne_none c).symm
      · split at h
        · rename_i hlike
          obtain ⟨hword, hquoted⟩ := Bool.and_eq_true_iff.mp hlike
          rw [← Option.some.inj h]
          exact .like hname hword hquoted
        · exact absurd h (Option.some_ne_none c).symm
  · intro h
    cases h with
    | equals hcolumn hkind hvalue hliteral =>
        rw [comparison?, hcolumn, hkind, hvalue, literalToken_iff.mp hliteral]
        rfl
    | like hcolumn hword hquoted =>
        have hkind : operator.kind = .word := by
          simpa [Token.isBare] using (isWord_iff.mp hword).1
        rw [comparison?, hcolumn, hword, hquoted, hkind]
        rfl

theorem readCondition_reads : Reads ConditionBody some body (readCondition text body) := by
  constructor
  · intro hquiet
    match body with
    | [] => exact absurd hquiet (List.cons_ne_nil _ _)
    | [column, operator, literal] =>
        cases hcomparison : comparison? column operator literal with
        | none =>
            exact absurd hquiet (by simp [readCondition, hcomparison])
        | some c => exact ⟨c, comparison?_eq_some.mp hcomparison⟩
    | [_] | [_, _] | _ :: _ :: _ :: _ :: _ => exact absurd hquiet (List.cons_ne_nil _ _)
  · intro c hc
    have hthree : ∃ column operator literal, body = [column, operator, literal] := by
      cases hc <;> exact ⟨_, _, _, rfl⟩
    obtain ⟨column, operator, literal, rfl⟩ := hthree
    simp [readCondition, comparison?_eq_some.mpr hc]

theorem segmentName?_eq_some {segment : List Token} {name : String} :
    segmentName? segment = some name ↔ ∃ t, segment = [t] ∧ t.isName = true ∧ t.value = name := by
  match segment with
  | [] => simp [segmentName?]
  | [t] => simp [segmentName?]
  | _ :: _ :: _ => simp [segmentName?]

/-- A name is no bracket and no comma. -/
theorem splitAtCommas_name {t : Token} {rest : List Token} (hname : t.isName = true) :
    splitAtCommas 0 (t :: rest) = match splitAtCommas 0 rest with
      | [] => [[t]]
      | segment :: segments => (t :: segment) :: segments := by
  rcases Bool.or_eq_true_iff.mp hname with hword | hquoted
  · have hkind : t.kind = .word := beq_iff_eq.mp hword
    rw [splitAtCommas, depthAfter, hkind]
    rfl
  · have hkind : t.kind = .quotedName := beq_iff_eq.mp hquoted
    rw [splitAtCommas, depthAfter, hkind]
    rfl

/-- Segments that are single names make a body of grouping columns. -/
theorem groupingBody_of_segments {depth : Nat} {body : List Token} {segments : List (List Token)}
    (h : CommaSegments depth body segments) {names : List String}
    (hnames : segments.mapM segmentName? = some names) : GroupingBody body names := by
  induction h generalizing names with
  | one hplain =>
      rw [List.mapM_cons] at hnames
      obtain ⟨name, hname, hrest⟩ := Option.bind_eq_some_iff.mp hnames
      obtain ⟨t, rfl, ht, rfl⟩ := segmentName?_eq_some.mp hname
      rw [← Option.some.inj hrest]
      exact .one ht
  | cons hplain hdepth hcomma hrest ih =>
      rw [List.mapM_cons] at hnames
      obtain ⟨name, hname, hlater⟩ := Option.bind_eq_some_iff.mp hnames
      obtain ⟨later, hmap, hall⟩ := Option.bind_eq_some_iff.mp hlater
      obtain ⟨t, rfl, ht, rfl⟩ := segmentName?_eq_some.mp hname
      rw [← Option.some.inj hall]
      exact .cons ht hcomma (ih hmap)

/-- The segments of some tokens are single names exactly in a body of grouping columns. -/
theorem groupingBody_iff {body : List Token} {names : List String} :
    (splitAtCommas 0 body).mapM segmentName? = some names ↔ GroupingBody body names := by
  constructor
  · exact groupingBody_of_segments (commaSegments_splitAtCommas 0 body)
  · intro h
    induction h with
    | one hname =>
        rw [splitAtCommas_name hname, splitAtCommas]
        simp [segmentName?, hname]
    | @cons t comma rest names hname hcomma hrest ih =>
        have hparts : splitAtCommas 0 (comma :: rest) = [] :: splitAtCommas 0 rest := by
          rw [splitAtCommas, hcomma]
          rfl
        rw [splitAtCommas_name hname, hparts]
        dsimp only
        rw [List.mapM_cons, ih, segmentName?_eq_some.mpr ⟨t, rfl, hname, rfl⟩]
        rfl

theorem readGrouping_reads : Reads GroupingBody id body (readGrouping body) := by
  unfold readGrouping
  constructor
  · intro hquiet
    split at hquiet
    · rename_i names hnames
      exact ⟨names, groupingBody_iff.mp hnames⟩
    · exact absurd hquiet (List.cons_ne_nil _ _)
  · intro names hnames
    rw [groupingBody_iff.mpr hnames]
    rfl

/-- The direction behind a sort key, upwards if there is none, and what is left behind it. -/
def directionOf (rest : List Token) : Direction × List Token :=
  match rest with
  | t :: tail =>
      if t.isWord "ASC" then (.ascending, tail)
      else if t.isWord "DESC" then (.descending, tail)
      else (.ascending, rest)
  | [] => (.ascending, [])

/-- What is to be said about tokens behind a sort key. -/
def behindSortKey (text : List Char) (column : String) (rest : List Token) : List Warning :=
  match rest with
  | [] => []
  | t :: _ =>
      if t.kind == .comma then [.furtherSortKeys column]
      else [.textAfterSortKey (sourceText text rest)]

theorem readOrder_cons (t : Token) (rest : List Token) (hname : t.isName = true) :
    readOrder text (t :: rest) =
      (some ⟨t.value, (directionOf rest).1⟩, behindSortKey text t.value (directionOf rest).2) := by
  unfold readOrder
  dsimp only
  rw [hname]
  rfl

theorem behindSortKey_eq_nil {column : String} {rest : List Token}
    (h : behindSortKey text column rest = []) : rest = [] := by
  unfold behindSortKey at h
  split at h
  · rfl
  · split at h <;> exact absurd h (List.cons_ne_nil _ _)

/-- Nothing is left behind a direction, or behind a name without one. -/
theorem orderBody_of_directionOf {t : Token} {rest : List Token} (hname : t.isName = true)
    (h : (directionOf rest).2 = []) : OrderBody (t :: rest) ⟨t.value, (directionOf rest).1⟩ := by
  cases rest with
  | nil => exact .plain hname
  | cons direction tail =>
      unfold directionOf at h ⊢
      dsimp only at h ⊢
      split_ifs at h ⊢ with hup hdown
      · obtain rfl : tail = [] := h
        exact .ascending hname hup
      · obtain rfl : tail = [] := h
        exact .descending hname hdown

theorem readOrder_reads : Reads OrderBody some body (readOrder text body) := by
  constructor
  · intro hquiet
    cases body with
    | nil => exact absurd hquiet (List.cons_ne_nil _ _)
    | cons t rest =>
        cases hname : t.isName with
        | false =>
            unfold readOrder at hquiet
            dsimp only at hquiet
            rw [hname] at hquiet
            exact absurd hquiet (List.cons_ne_nil _ _)
        | true =>
            rw [readOrder_cons text t rest hname] at hquiet
            exact ⟨_, orderBody_of_directionOf hname (behindSortKey_eq_nil text hquiet)⟩
  · intro key hkey
    cases hkey with
    | plain hname => exact readOrder_cons text _ _ hname
    | ascending hname hword =>
        rw [readOrder_cons text _ _ hname, directionOf, hword]
        rfl
    | @descending t direction hname hword =>
        have hother : direction.isWord "ASC" = false := by
          rw [Token.isWord, (isWord_iff.mp hword).2]
          exact Bool.and_eq_false_imp.mpr fun _ => by decide
        rw [readOrder_cons text _ _ hname, directionOf, hother, hword]
        rfl

/-- A limit that could be read is silent exactly on a number made of digits. -/
theorem readLimit_reads {result : Warned (Option Nat)} (h : readLimit text body = .ok result) :
    Reads LimitBody some body result := by
  cases body with
  | nil =>
      rw [← Except.ok.inj h]
      exact ⟨fun hquiet => absurd hquiet (List.cons_ne_nil _ _), fun _ hn => nomatch hn⟩
  | cons number rest =>
      unfold readLimit at h
      dsimp only at h
      split at h
      · rename_i hunclear
        rw [← Except.ok.inj h]
        refine ⟨fun hquiet => absurd hquiet (List.cons_ne_nil _ _), ?_⟩
        rintro _ ⟨hkind, hdigits⟩
        rw [hkind, List.all_eq_true.mpr hdigits] at hunclear
        exact absurd hunclear Bool.false_ne_true
      · rename_i hclear
        obtain ⟨hkind, hdigits⟩ : number.kind = .number ∧
            ∀ c ∈ number.value.toList, Text.isDecimal c = true := by
          simpa using hclear
        split at h
        · exact absurd h (by simp)
        · rw [← Except.ok.inj h]
          constructor
          · intro hquiet
            cases rest with
            | nil => exact ⟨_, .digits hkind hdigits⟩
            | cons t rest => exact absurd hquiet (List.cons_ne_nil _ _)
          · rintro _ ⟨-, -⟩
            rfl

end Readers

end JsonQuery
