import JsonQuery.Proofs.Query.Bodies
import JsonQuery.Query.Printer
import Mathlib.Tactic

/-!
Writing a query and reading it again. The entries of the selection list are written as they
stood in the text, but a name and a literal without the care their reading takes: a name loses
its quotes, and a quote inside a literal is written once. So the text of a query is read as the
same query only if its names are plain words and its literal has no quote.
-/

namespace JsonQuery

open Outcome Sql

/-- What a query needs for its text to be read as the same query: a selection that is a list has
a source, and is no star alone; its names are plain words and no quote stands in its literal. -/
structure Query.Plain (q : Query) : Prop where
  selection : q.source = none → q.projection = .everything
  star : q.projection ≠ .listed [⟨"*", .expression⟩]
  source : ∀ name, q.source = some name → PlainName name
  column : ∀ c, q.condition = some c → PlainName c.column
  literal : ∀ c, q.condition = some c → c.quoted = true → '\'' ∉ c.literal.toList
  grouping : ∀ name ∈ q.grouping, PlainName name
  order : ∀ key, q.order = some key → PlainName key.column

/-- The kinds of clauses in the order in which they are written. -/
def ClauseKind.all : List ClauseKind := [.select, .source, .condition, .grouping, .order, .limit]

/-- The body of a clause that a query is written with, if it has the clause. -/
def Query.body? (q : Query) (selection : List Piece) : ClauseKind → Option (List Piece)
  | .select => some selection
  | .source => q.source.map fun name => [.word name.toList]
  | .condition => q.condition.map Condition.pieces
  | .grouping => if q.grouping.isEmpty then none else some (namePieces q.grouping)
  | .order => q.order.map SortKey.pieces
  | .limit => q.limit.map fun n => [.number (toString n).toList]

/-- The clauses a query is written with. -/
def Query.clauses (q : Query) (selection : List Piece) : List Clause :=
  ClauseKind.all.flatMap fun kind => ((q.body? selection kind).map (Clause.mk kind)).toList

section Text

variable {q : Query} {selection : List Piece}

theorem render_intercalate (separator : List Piece) (parts : List (List Piece)) :
    render (separator.intercalate parts) = (render separator).intercalate (parts.map render) := by
  induction parts with
  | nil => rfl
  | cons part later ih =>
      cases later with
      | nil => simp
      | cons next later => simp [render_append, ih]

/-- The text of a clause is its keyword and its body. -/
theorem toList_clause (kind : ClauseKind) {body : List Piece} {text : String}
    (h : render body = text.toList) :
    (kind.keywords ++ " " ++ text).toList = render (Clause.pieces ⟨kind, body⟩) := by
  have hkeyword : render kind.pieces = kind.keywords.toList := by
    cases kind <;> decide
  rw [Clause.pieces, render_append, render_cons, hkeyword, h, String.toList_append,
    String.toList_append, List.append_assoc]
  rfl

theorem toList_condition {c : Condition} (hquote : c.quoted = true → '\'' ∉ c.literal.toList) :
    c.toSql.toList = render c.pieces := by
  have hcomparison : c.comparison.symbol.toList = c.comparison.piece.raw := by
    cases c.comparison <;> decide
  have hliteral : (if c.quoted then "'" ++ c.literal ++ "'" else c.literal).toList =
      c.literalPiece.raw := by
    rw [Condition.literalPiece]
    cases hquoted : c.quoted with
    | true =>
        rw [if_pos rfl, if_pos rfl, Piece.raw, enquote, double_eq_self (hquote hquoted),
          String.toList_append, String.toList_append]
        rfl
    | false =>
        rw [if_neg Bool.false_ne_true, if_neg Bool.false_ne_true]
        split <;> rfl
  rw [Condition.toSql, Condition.pieces]
  rw [String.toList_append, String.toList_append, String.toList_append, String.toList_append,
    hcomparison, hliteral]
  simp [render_cons, Piece.raw]

theorem toList_key {key : SortKey} : key.toSql.toList = render key.pieces := by
  rw [SortKey.toSql, SortKey.pieces, String.toList_append, String.toList_append]
  simp [render_cons, Piece.raw]

theorem toList_names {names : List String} :
    (", ".intercalate names).toList = render (namePieces names) := by
  have hname : ∀ name : String, render [.word name.toList] = name.toList := by
    intro name
    rw [render_cons, render_nil, List.append_nil]
    rfl
  rw [String.toList_intercalate, namePieces, render_intercalate, List.map_map]
  congr 1
  exact List.map_congr_left fun name _ => (hname name).symm

theorem map_toList_clause {α : Type} (kind : ClauseKind) (part : Option α) (text : α → String)
    (pieces : α → List Piece)
    (h : ∀ a, part = some a → render (pieces a) = (text a).toList) :
    (part.map fun a => kind.keywords ++ " " ++ text a).toList.map String.toList =
      ((part.map pieces).map (Clause.mk kind)).toList.map (render ∘ Clause.pieces) := by
  cases part with
  | none => rfl
  | some a => exact congrArg (fun cs => [cs]) (toList_clause kind (h a rfl))

theorem PlainName.ne_empty {name : String} (h : PlainName name) : name ≠ "" := by
  rintro rfl
  exact h.lone.nonempty rfl

theorem clauseTexts_eq (hsource : q.source ≠ some "") : q.clauseTexts =
    [ClauseKind.keywords .select ++ " " ++ q.projection.toSql] ++
      (q.source.map fun name => ClauseKind.keywords .source ++ " " ++ name).toList ++
      (q.condition.map fun c => ClauseKind.keywords .condition ++ " " ++ c.toSql).toList ++
      (if q.grouping.isEmpty then []
        else [ClauseKind.keywords .grouping ++ " " ++ ", ".intercalate q.grouping]) ++
      (q.order.map fun key => ClauseKind.keywords .order ++ " " ++ key.toSql).toList ++
      (q.limit.map fun n => ClauseKind.keywords .limit ++ " " ++ toString n).toList := by
  unfold Query.clauseTexts
  dsimp only
  cases hname : q.source with
  | none => rfl
  | some name =>
      have hne : ¬ name.isEmpty = true := by
        intro hempty
        rw [hname, String.isEmpty_iff.mp hempty] at hsource
        exact hsource rfl
      dsimp only
      rw [if_neg hne]
      rfl

theorem toList_toSql (hselection : render selection = q.projection.toSql.toList)
    (hsource : q.source ≠ some "")
    (hliteral : ∀ c, q.condition = some c → c.quoted = true → '\'' ∉ c.literal.toList) :
    q.toSql.toList = render (clausePieces (q.clauses selection)) := by
  have hsingle (p : Piece) : render [p] = p.raw := by
    rw [render_cons, render_nil, List.append_nil]
  have hname := map_toList_clause .source q.source id (fun name => [.word name.toList])
    fun name _ => hsingle _
  have hcondition := map_toList_clause .condition q.condition Condition.toSql Condition.pieces
    fun c hc => (toList_condition (hliteral c hc)).symm
  have horder := map_toList_clause .order q.order SortKey.toSql SortKey.pieces
    fun _ _ => toList_key.symm
  have hlimit := map_toList_clause .limit q.limit toString
    (fun n => [.number (toString n).toList]) fun n _ => hsingle _
  have hgrouping : (if q.grouping.isEmpty then []
      else [ClauseKind.keywords .grouping ++ " " ++ ", ".intercalate q.grouping]).map
        String.toList = ((q.body? selection .grouping).map (Clause.mk .grouping)).toList.map
          (render ∘ Clause.pieces) := by
    rw [Query.body?]
    split
    · rfl
    · exact congrArg (fun cs => [cs]) (toList_clause .grouping toList_names.symm)
  rw [Query.toSql, String.toList_intercalate, clausePieces, render_intercalate, List.map_map,
    clauseTexts_eq hsource]
  congr 1
  simp only [id] at hname
  simp only [List.map_append, hname, hcondition, hgrouping, horder, hlimit]
  simp only [Query.clauses, ClauseKind.all, List.flatMap_cons, List.flatMap_nil, List.map_append,
    List.append_assoc, List.append_nil]
  rw [List.map_singleton, toList_clause .select hselection]
  rfl

end Text

section Clauses

variable {q : Query} {selection : List Piece} {blocks : List Block}

theorem mem_clauses {c : Clause} :
    c ∈ q.clauses selection ↔ q.body? selection c.kind = some c.body := by
  have hall : c.kind ∈ ClauseKind.all := by cases c.kind <;> decide
  rw [Query.clauses, List.mem_flatMap]
  constructor
  · rintro ⟨kind, -, hc⟩
    obtain ⟨body, hbody, rfl⟩ := Option.map_eq_some_iff.mp (Option.mem_toList.mp hc)
    exact hbody
  · intro hbody
    refine ⟨c.kind, hall, Option.mem_toList.mpr ?_⟩
    rw [hbody]
    rfl

theorem nodup_clauses : ((q.clauses selection).map Clause.kind).Nodup := by
  have hkinds : (q.clauses selection).map Clause.kind =
      ClauseKind.all.filter fun kind => (q.body? selection kind).isSome := by
    rw [Query.clauses]
    generalize ClauseKind.all = kinds
    induction kinds with
    | nil => rfl
    | cons kind kinds ih =>
        rw [List.flatMap_cons, List.map_append, ih]
        cases hbody : q.body? selection kind <;> simp [hbody]
  rw [hkinds]
  exact List.Nodup.filter _ (by decide)

theorem ready_clauses (hplain : q.Plain) (hselection : Ready selection)
    (hwritable : ∀ c, q.condition = some c → Writable c) :
    ∀ c ∈ q.clauses selection, Ready c.body := by
  rintro ⟨kind, body⟩ hc
  have hbody : q.body? selection kind = some body := mem_clauses.mp hc
  cases kind with
  | select =>
      rw [← Option.some.inj hbody]
      exact hselection
  | source =>
      obtain ⟨name, hname, rfl⟩ := Option.map_eq_some_iff.mp hbody
      exact (hplain.source name hname).entry.toReady
  | condition =>
      obtain ⟨c, hcondition, rfl⟩ := Option.map_eq_some_iff.mp hbody
      exact ready_condition (hplain.column c hcondition) (hwritable c hcondition)
        (hplain.literal c hcondition)
  | grouping =>
      rw [Query.body?] at hbody
      split at hbody
      · nomatch hbody
      · rename_i hne
        rw [← Option.some.inj hbody]
        exact ready_names hplain.grouping (by simpa using hne)
  | order =>
      obtain ⟨key, hkey, rfl⟩ := Option.map_eq_some_iff.mp hbody
      exact ready_key (hplain.order key hkey)
  | limit =>
      obtain ⟨n, -, rfl⟩ := Option.map_eq_some_iff.mp hbody
      exact ready_limit n

/-- The body that is read for a clause is the one that was written for it. -/
def Found (ps : List Piece) (blocks : List Block) (kind : ClauseKind) :
    Option (List Piece) → Prop
  | none => bodyOf? blocks kind = none
  | some body => ∃ tokens, bodyOf? blocks kind = some tokens ∧ Stands ps 0 body tokens

/-- The clauses of a query are cut from its text, and those it does not have are missing. -/
theorem exists_found (h : ∀ c ∈ q.clauses selection, Sealed c.body) :
    ∃ blocks, Cut (place 0 (clausePieces (q.clauses selection))) blocks ∧
      (blocks.map Block.kind).Nodup ∧
      ∀ kind, Found (clausePieces (q.clauses selection)) blocks kind (q.body? selection kind) := by
  obtain ⟨blocks, hcut, hstands⟩ := exists_blocks h 0
  have hkinds : blocks.map Block.kind = (q.clauses selection).map Clause.kind := by
    rw [← List.forall₂_eq_eq_eq, List.forall₂_map_left_iff, List.forall₂_map_right_iff]
    exact hstands.flip.imp fun _ _ h => h.1
  refine ⟨blocks, hcut, hkinds ▸ nodup_clauses, ?_⟩
  intro kind
  cases hbody : q.body? selection kind with
  | none =>
      refine bodyOf?_eq_none.mpr ?_
      rintro b hb rfl
      obtain ⟨c, hc, hkind, -⟩ := exists_of_forall₂ hstands hb
      rw [hkind, mem_clauses.mp hc] at hbody
      exact Option.some_ne_none _ hbody
  | some body =>
      obtain ⟨b, hb, rfl, hbody⟩ := exists_of_forall₂ hstands.flip
        (mem_clauses.mpr hbody : ⟨kind, body⟩ ∈ q.clauses selection)
      exact ⟨b.body, bodyOf?_of_mem (hkinds ▸ nodup_clauses) hb, hbody⟩

/-- A clause is read without a warning as what it was written for, and is missing if it was not
written. -/
theorem readIfPresent_found {α : Type} {ps : List Piece} {kind : ClauseKind}
    {Body : List Token → α → Prop} {read : List Token → Warned (Option α)} {part : Option α}
    {pieces : α → List Piece} (hfound : Found ps blocks kind (part.map pieces))
    (hreads : ∀ body, Reads Body some body (read body))
    (hbody : ∀ a, part = some a → ∀ start, Body (place start (pieces a)) a) :
    readIfPresent none read (bodyOf? blocks kind) = (part, []) := by
  cases part with
  | none =>
      have hnone : bodyOf? blocks kind = none := hfound
      rw [hnone]
      rfl
  | some a =>
      obtain ⟨tokens, htokens, front, back, -, rfl⟩ := hfound
      rw [htokens]
      exact (hreads _).complete a (hbody a rfl _)

end Clauses

section Queries

variable {q : Query} {selection : List Piece} {blocks : List Block}

theorem found_limit (hfound : Found (clausePieces (q.clauses selection)) blocks .limit
    (q.body? selection .limit)) (hlimit : ∀ n, q.limit = some n → n < 10 ^ integerDigitLimit)
    (text : List Char) : limitOf text blocks = .ok (q.limit, []) := by
  rw [limitOf]
  cases hn : q.limit with
  | none =>
      rw [Query.body?, hn] at hfound
      have hnone : bodyOf? blocks .limit = none := hfound
      rw [hnone]
      rfl
  | some n =>
      rw [Query.body?, hn] at hfound
      obtain ⟨tokens, htokens, front, back, -, rfl⟩ := hfound
      rw [htokens]
      exact readLimit_digits (hlimit n hn) text _

/-- The parts of a query whose text is read from blocks that hold its clauses are read without a
warning, whatever it selects. -/
theorem parts_of_found (hfree : ∀ name ∈ q.grouping, IsFree name)
    (hwritable : ∀ c, q.condition = some c → Writable c)
    (hfound : ∀ kind, Found (clausePieces (q.clauses selection)) blocks kind
      (q.body? selection kind)) (text : List Char) :
    readIfPresent none (readSource text) (bodyOf? blocks .source) = (q.source, []) ∧
      readIfPresent none (readCondition text) (bodyOf? blocks .condition) = (q.condition, []) ∧
      readIfPresent [] readGrouping (bodyOf? blocks .grouping) = (q.grouping, []) ∧
      readIfPresent none (readOrder text) (bodyOf? blocks .order) = (q.order, []) := by
  refine ⟨?_, ?_, ?_, ?_⟩
  · exact readIfPresent_found (hfound .source) (readSource_reads text)
      fun name _ start => sourceBody_name name start
  · exact readIfPresent_found (hfound .condition) (readCondition_reads text)
      fun c hc start => conditionBody_pieces (hwritable c hc) start
  · have hgrouping := hfound .grouping
    rw [Query.body?] at hgrouping
    split at hgrouping
    · rename_i hempty
      have hnone : bodyOf? blocks .grouping = none := hgrouping
      rw [hnone, List.isEmpty_iff.mp hempty]
      rfl
    · rename_i hne
      obtain ⟨tokens, htokens, front, back, -, rfl⟩ := hgrouping
      have hnames := groupingBody_names hfree (by simpa using hne) (0 + (render front).length)
      rw [htokens]
      exact (readGrouping_reads _).complete _ hnames
  · exact readIfPresent_found (hfound .order) (readOrder_reads text)
      fun key _ start => orderBody_pieces key start

end Queries

/-- The pieces a selection is written with. -/
inductive Selects : Projection → List Piece → Prop
  | everything : Selects .everything [.sign '*']
  | listed {items : List SelectItem} {parts : List (List Piece)} (hne : items ≠ [])
      (hparts : List.Forall₂ Writes items parts) :
      Selects (.listed items) (commaGap.intercalate parts)

section Selections

variable {p : Projection} {selection : List Piece}

theorem forall_entry {items : List SelectItem} {parts : List (List Piece)}
    (h : List.Forall₂ Writes items parts) : ∀ part ∈ parts, Entry part := by
  intro part hpart
  obtain ⟨item, -, hwrites⟩ := exists_of_forall₂ h hpart
  exact hwrites.entry

theorem ne_nil_of_forall₂ {items : List SelectItem} {parts : List (List Piece)}
    (h : List.Forall₂ Writes items parts) (hne : items ≠ []) : parts ≠ [] := by
  rintro rfl
  exact hne (List.forall₂_nil_right_iff.mp h)

theorem Selects.ready (h : Selects p selection) : Ready selection := by
  cases h with
  | everything =>
      refine ⟨fun rest _ => ⟨.star, trivial⟩, ⟨[], _, rfl, rfl⟩, fun _ => rfl, ?_⟩
      exact fun start rest _ => .cons_sign (fun hkind => nomatch hkind) (.nil _ _)
  | listed hne hparts =>
      exact ready_intercalate (forall_entry hparts) (ne_nil_of_forall₂ hparts hne)

theorem Selects.render (h : Selects p selection) : Sql.render selection = p.toSql.toList := by
  cases h with
  | everything => rfl
  | @listed items parts hne hparts =>
      have htexts : parts.map Sql.render = (items.map SelectItem.text).map String.toList := by
        rw [List.map_map, ← List.forall₂_eq_eq_eq, List.forall₂_map_left_iff,
          List.forall₂_map_right_iff]
        refine hparts.flip.imp fun part item hwrites => ?_
        rw [Function.comp, hwrites.text, String.toList_ofList]
      rw [render_intercalate, htexts, Projection.toSql, String.toList_intercalate]
      rfl

theorem Writes.eq_star {item : SelectItem} {part : List Piece} {t : Token} {start : Nat}
    (h : Writes item part) (ht : place start part = [t]) (hstar : t.kind = .star) :
    item = ⟨"*", .expression⟩ := by
  obtain ⟨p, rfl, hp⟩ := h.trimmed.eq_singleton ht
  obtain rfl := Piece.eq_star hp hstar
  have htext : item.text = "*" := h.text
  have hshape : item.shape = .expression := h.shape.symm
  obtain ⟨text, shape⟩ := item
  rw [show text = "*" from htext, show shape = .expression from hshape]

/-- An entry is read of the tokens that stand where it was written. -/
theorem Writes.eq_of_stands {item : SelectItem} {ps part : List Piece} {tokens : List Token}
    (h : Writes item part) (hps : Placed ps []) (hstands : Stands ps 0 part tokens) :
    tokens ≠ [] ∧ item = ⟨sourceText (Sql.render ps) tokens, itemShape tokens⟩ := by
  have htext := sourceText_of_stands hps hstands h.trimmed []
  rw [List.append_nil] at htext
  obtain ⟨before, behind, -, rfl⟩ := hstands
  constructor
  · intro hnil
    obtain ⟨t, ht, -⟩ := h.trimmed.head? (0 + (Sql.render before).length)
    rw [hnil] at ht
    nomatch ht
  · rw [htext, itemShape_place, h.shape, ← h.text]

/-- The selection of a query is read as it was written. -/
theorem Selects.selectBody {ps : List Piece} {tokens : List Token} (h : Selects p selection)
    (hstar : p ≠ .listed [⟨"*", .expression⟩]) (hps : Placed ps [])
    (hstands : Stands ps 0 selection tokens) : SelectBody (Sql.render ps) tokens p := by
  obtain ⟨front, back, rfl, rfl⟩ := hstands
  cases h with
  | everything => exact .everything rfl
  | @listed items parts hne hparts =>
      generalize hwhole : front ++ (commaGap.intercalate parts ++ back) = ps at hps ⊢
      obtain ⟨segments, hsegments, hsegmentStands⟩ := exists_segments
        (fun part hpart => (forall_entry hparts part hpart).segment) (ne_nil_of_forall₂ hparts hne) (0 + (Sql.render front).length)
      have hwrites : List.Forall₂ (fun item segment =>
          (segment ≠ [] ∧ item = ⟨sourceText (Sql.render ps) segment, itemShape segment⟩) ∧
            ∀ t, segment = [t] → t.kind = .star → item = ⟨"*", .expression⟩) items segments := by
        refine (forall₂_comp.mp ⟨parts, hparts, hsegmentStands⟩).imp ?_
        rintro item segment ⟨part, hwrites, hpart⟩
        refine ⟨hwrites.eq_of_stands hps (hwhole ▸ hpart.ahead.behind), ?_⟩
        obtain ⟨before, behind, -, rfl⟩ := hpart
        exact fun t ht => hwrites.eq_star ht
      have hlist : items = segments.map fun segment =>
          ⟨sourceText (Sql.render ps) segment, itemShape segment⟩ := by
        rw [← List.forall₂_eq_eq_eq, List.forall₂_map_right_iff]
        exact hwrites.imp fun _ _ h => h.1.2
      have hfull : ∀ segment ∈ segments, segment ≠ [] := by
        intro segment hsegment
        obtain ⟨item, -, ⟨hfilled, -⟩, -⟩ := exists_of_forall₂ hwrites hsegment
        exact hfilled
      have hentries : ∀ t, place (0 + (Sql.render front).length) (commaGap.intercalate parts) =
          [t] → t.kind ≠ .star := by
        intro t ht hkind
        have hcomma : t.kind ≠ .comma := by
          rw [hkind]
          decide
        rw [ht] at hsegments
        obtain rfl := (commaSegments_iff.mp (commaSegments_singleton hcomma)).symm.trans
          (commaSegments_iff.mp hsegments)
        obtain ⟨item, rest, ⟨-, hitem⟩, hrest, rfl⟩ := List.forall₂_cons_right_iff.mp hwrites
        rw [hitem t rfl hkind, List.forall₂_nil_right_iff.mp hrest] at hstar
        exact hstar rfl
      rw [hlist]
      exact .listed hsegments hfull hentries

end Selections

section Rendering

variable {text : String} {ps : List Piece} {tail : List Char} {q : Query}
variable {selection : List Piece}

theorem endsSolid_clausePieces {clauses : List Clause} (h : ∀ c ∈ clauses, EndsSolid c.body)
    (hne : clauses ≠ []) : EndsSolid (clausePieces clauses) := by
  induction clauses with
  | nil => exact absurd rfl hne
  | cons c later ih =>
      obtain ⟨hc, hlater⟩ := List.forall_mem_cons.mp h
      have hbody : EndsSolid (c.body ++
          (gap blankGap (later.map Clause.pieces) ++ clausePieces later)) := by
        cases later with
        | nil => simpa [clausePieces, gap] using hc
        | cons next later => exact ((ih hlater (List.cons_ne_nil _ _)).behind _).behind _
      rw [clausePieces_cons]
      exact (hbody.behind [.blank ' ']).behind _

/-- The text of a query is read from blocks that hold its clauses. -/
theorem parse_clauses (hsealed : ∀ c ∈ q.clauses selection, Sealed c.body)
    (hplaced : Placed (clausePieces (q.clauses selection)) [])
    (hends : ∀ c ∈ q.clauses selection, EndsSolid c.body)
    (htext : text.toList = render (clausePieces (q.clauses selection))) :
    ∃ blocks, Query.parse text =
        queryOfBlocks (render (clausePieces (q.clauses selection))) blocks ∧
      Cut (queryTokens text) blocks ∧ (blocks.map Block.kind).Nodup ∧
      ∀ kind, Found (clausePieces (q.clauses selection)) blocks kind (q.body? selection kind) := by
  obtain ⟨blocks, hcut, honce, hfound⟩ := exists_found hsealed
  obtain ⟨later, hclauses⟩ : ∃ later, q.clauses selection = ⟨.select, selection⟩ :: later :=
    ⟨_, rfl⟩
  have htrimmed : Trimmed (clausePieces (q.clauses selection)) := by
    refine ⟨⟨.word "SELECT".toList, ?_⟩, ?_⟩
    · rw [hclauses, clausePieces_cons]
      exact ⟨_, rfl, rfl⟩
    · exact endsSolid_clausePieces hends (by rw [hclauses]; exact List.cons_ne_nil _ _)
  have hstrip : Text.strip text = text := by
    rw [Text.strip, htext, stripWhere_render hplaced htrimmed, ← htext, String.ofList_toList]
  have htokens := queryTokens_of_pieces
    (hstrip.symm ▸ htext.trans (List.append_nil _).symm) hplaced terminates_nil
  obtain ⟨t, ht, hword⟩ := exists_wordToken "SELECT" 0
  have hkeyword : place 0 (ClauseKind.pieces .select) = [t] := by
    rw [← ht]
    rfl
  have hfirst : ∃ rest, queryTokens text = t :: rest := by
    rw [htokens, hclauses, clausePieces_cons, place_append, hkeyword]
    exact ⟨_, rfl⟩
  obtain ⟨rest, hrest⟩ := hfirst
  obtain ⟨-, hupper⟩ := writtenWords_facts "SELECT" (by decide)
  refine ⟨blocks, ?_, htokens ▸ hcut, honce, hfound⟩
  rw [parse_of_queryTokens hrest (hword.isWord_eq_true hupper), htokens, hcut.eq_cut, hstrip, htext]

theorem parse_of_ready (hready : ∀ c ∈ q.clauses selection, Ready c.body)
    (htext : text.toList = render (clausePieces (q.clauses selection))) :
    ∃ blocks, Query.parse text =
        queryOfBlocks (render (clausePieces (q.clauses selection))) blocks ∧
      ∀ kind, Found (clausePieces (q.clauses selection)) blocks kind (q.body? selection kind) := by
  obtain ⟨blocks, hparse, -, -, hfound⟩ := parse_clauses (fun c hc => (hready c hc).sealed)
    (placed_clausePieces fun c hc => (hready c hc).standsClear) (fun c hc => (hready c hc).ends) htext
  exact ⟨blocks, hparse, hfound⟩

theorem Query.Plain.toList_toSql (hplain : q.Plain)
    (hselection : render selection = q.projection.toSql.toList) :
    q.toSql.toList = render (clausePieces (q.clauses selection)) := by
  refine JsonQuery.toList_toSql hselection ?_ hplain.literal
  exact fun h => (hplain.source _ h).ne_empty rfl

/-- The selection is read as it was written, if there is a source or nothing to select. -/
theorem readProjection_found {blocks : List Block} (hplain : q.Plain)
    (hselects : Selects q.projection selection) (hps : Placed ps [])
    (hsource : Found ps blocks .source (q.body? selection .source))
    (hselect : Found ps blocks .select (some selection)) :
    (readProjection (render ps) blocks).1 = q.projection := by
  cases hname : q.source with
  | none =>
      rw [Query.body?, hname] at hsource
      have hnone : bodyOf? blocks .source = none := hsource
      rw [readProjection, hnone, hplain.selection hname]
      rfl
  | some name =>
      rw [Query.body?, hname] at hsource
      obtain ⟨_, hfrom, -⟩ := hsource
      obtain ⟨tokens, htokens, hstands⟩ := hselect
      have hsome : (bodyOf? blocks .source).isNone = false := by
        rw [hfrom]
        rfl
      have hbody := hselects.selectBody hplain.star hps hstands
      exact congrArg Prod.fst ((readProjection_reads hsome htokens).complete _ hbody)

/-- A query with plain names, a literal that can be written and a limit that can be read has a
text that is read as the same query. -/
theorem parse_toSql_of_selects (hplain : q.Plain) (hselects : Selects q.projection selection)
    (hwritable : ∀ c, q.condition = some c → Writable c)
    (hlimit : ∀ n, q.limit = some n → n < 10 ^ integerDigitLimit) :
    ∃ q', Query.parse q.toSql = .ok q' ∧ q'.projection = q.projection ∧ q'.source = q.source ∧
      q'.condition = q.condition ∧ q'.grouping = q.grouping ∧ q'.order = q.order ∧
      q'.limit = q.limit := by
  have hready := ready_clauses hplain hselects.ready hwritable
  obtain ⟨blocks, hparse, hfound⟩ := parse_of_ready hready (hplain.toList_toSql hselects.render)
  obtain ⟨hsource, hcondition, hgrouping, horder⟩ := parts_of_found
    (fun name hname => (hplain.grouping name hname).isFree) hwritable hfound
    (render (clausePieces (q.clauses selection)))
  have hprojection := readProjection_found hplain hselects
    (placed_clausePieces fun c hc => (hready c hc).standsClear) (hfound .source) (hfound .select)
  rw [queryOfBlocks_eq, found_limit (hfound .limit) hlimit] at hparse
  exact ⟨_, hparse, hprojection, congrArg Prod.fst hsource, congrArg Prod.fst hcondition,
    congrArg Prod.fst hgrouping, congrArg Prod.fst horder, rfl⟩

/-- A query that was read from words, numbers, signs, blanks and quoted texts, none of which ends
with a backslash, and maybe semicolons behind them, has a text that is read as the same query, if
its names are plain words and no quote stands in its literal. -/
theorem parse_toSql (htext : (Text.strip text).toList = render ps ++ tail)
    (hplaced : WellPlaced ps tail) (htail : Terminates tail) (hclosed : Closed ps)
    (hparse : Query.parse text = .ok q) (hplain : q.Plain) :
    ∃ q', Query.parse q.toSql = .ok q' ∧ q'.projection = q.projection ∧ q'.source = q.source ∧
      q'.condition = q.condition ∧ q'.grouping = q.grouping ∧ q'.order = q.order ∧
      q'.limit = q.limit := by
  have hselects : ∃ selection, Selects q.projection selection := by
    cases hprojection : q.projection with
    | everything => exact ⟨_, .everything⟩
    | listed items =>
        obtain ⟨hne, parts, hparts⟩ := exists_parts htext hplaced htail hclosed hparse hprojection
        exact ⟨_, .listed hne hparts⟩
  obtain ⟨selection, hselects⟩ := hselects
  exact parse_toSql_of_selects hplain hselects
    (fun c hc => writable_of_parse htext hplaced htail hclosed hparse hc)
    (fun n hn => limit_lt_of_parse hparse hn)

/-- The pieces of a query with a quoted source, a function under another name, a number with a
point, a limit with a leading zero and no blank around its comparison. -/
def groupedPieces : List Piece :=
  [.word "select".toList, .blank ' ', .word "a".toList, .sign ',', .blank ' ',
    .word "count".toList, .sign '(', .sign '*', .sign ')', .blank ' ', .word "n".toList, .blank ' ',
    .word "from".toList, .blank ' ', .quoted '"' "t".toList, .blank ' ', .word "where".toList,
    .blank ' ', .word "b".toList, .operator ['='], .number "-2.50".toList, .blank ' ',
    .word "group".toList, .blank ' ', .word "by".toList, .blank ' ', .word "a".toList, .blank ' ',
    .word "order".toList, .blank ' ', .word "by".toList, .blank ' ', .word "a".toList, .blank ' ',
    .word "limit".toList, .blank ' ', .number "02".toList]

/-- A query whose text changes when it is written again. -/
theorem parse_toSql_grouped :
    ∃ q, Query.parse
        "select a, count(*) n from \"t\" where b=-2.50 group by a order by a limit 02;" = .ok q ∧
      q.toSql =
        "SELECT a, count(*) n FROM t WHERE b = -2.50 GROUP BY a ORDER BY a ASC LIMIT 2" ∧
      ∃ q', Query.parse q.toSql = .ok q' ∧ q'.projection = q.projection ∧ q'.source = q.source ∧
        q'.condition = q.condition ∧ q'.grouping = q.grouping ∧ q'.order = q.order ∧
        q'.limit = q.limit := by
  have hread : (Query.parse
      "select a, count(*) n from \"t\" where b=-2.50 group by a order by a limit 02;").toOption =
        some
          { text := "select a, count(*) n from \"t\" where b=-2.50 group by a order by a limit 02;"
            projection := .listed [⟨"a", .column "a" none⟩,
              ⟨"count(*) n", .aggregate .count .rows (some "n")⟩]
            source := some "t", condition := some ⟨"b", .equals, "-2.50", false⟩
            grouping := ["a"], order := some ⟨"a", .ascending⟩, limit := some 2
            warnings := [] } := by
    decide +kernel
  have htext : (Text.strip
      "select a, count(*) n from \"t\" where b=-2.50 group by a order by a limit 02;").toList =
        render groupedPieces ++ [';'] := by
    decide +kernel
  have hplaced : WellPlaced groupedPieces [';'] := by decide +kernel
  have hclosed : Closed groupedPieces := by
    intro quote cs hmem
    simp only [groupedPieces, List.mem_cons, List.not_mem_nil, reduceCtorEq, false_or, or_false,
      Piece.quoted.injEq] at hmem
    obtain ⟨-, rfl⟩ := hmem
    decide +kernel
  have hname : ∀ name ∈ ["a", "b", "t"], PlainName name := by
    intro name hmem
    have hall : ∀ name ∈ ["a", "b", "t"], IsLone name.toList ∧
        ∀ word ∈ openers, Text.upper name ≠ word := by
      decide +kernel
    exact ⟨(hall name hmem).1, (hall name hmem).2⟩
  have htail : Terminates [';'] := ⟨by decide, rfl⟩
  refine ⟨_, toOption_eq_some.mp hread, by decide +kernel, ?_⟩
  refine parse_toSql htext hplaced htail hclosed (toOption_eq_some.mp hread)
    ⟨?_, ?_, ?_, ?_, ?_, ?_, ?_⟩
  · exact fun hnone => nomatch hnone
  · decide +kernel
  · rintro name ⟨⟩
    exact hname "t" (by simp)
  · rintro c ⟨⟩
    exact hname "b" (by simp)
  · rintro c ⟨⟩ hquoted
    nomatch hquoted
  · exact fun name hmem => hname name (by simp at hmem; simp [hmem])
  · rintro key ⟨⟩
    exact hname "a" (by simp)

/-- Queries that are lost when they are written again: the quote in a literal is written once,
names lose their quotes, a source without a name is left out, and so is the entry that makes a
star a list. -/
theorem toSql_loses :
    (∃ q q', Query.parse "SELECT * FROM data WHERE c = 'it''s'" = .ok q ∧
        Query.parse q.toSql = .ok q' ∧ q'.condition ≠ q.condition) ∧
      (∃ q q', Query.parse "SELECT * FROM data GROUP BY \"a b\"" = .ok q ∧
        Query.parse q.toSql = .ok q' ∧ q'.grouping ≠ q.grouping) ∧
      (∃ q q', Query.parse "SELECT a FROM 5" = .ok q ∧
        Query.parse q.toSql = .ok q' ∧ q'.projection ≠ q.projection) ∧
      ∃ q q', Query.parse "SELECT , * FROM data" = .ok q ∧
        Query.parse q.toSql = .ok q' ∧ q'.projection ≠ q.projection := by
  have hlost {α : Type} [DecidableEq α] (part : Query → α) {text : String}
      (h : ((Query.parse text).toOption.bind fun q => (Query.parse q.toSql).toOption.map
        fun q' => decide (part q' ≠ part q)) = some true) :
      ∃ q q', Query.parse text = .ok q ∧ Query.parse q.toSql = .ok q' ∧ part q' ≠ part q := by
    obtain ⟨q, hq, hagain⟩ := Option.bind_eq_some_iff.mp h
    obtain ⟨q', hq', hne⟩ := Option.map_eq_some_iff.mp hagain
    exact ⟨q, q', toOption_eq_some.mp hq, toOption_eq_some.mp hq', of_decide_eq_true hne⟩
  exact ⟨hlost Query.condition (by decide +kernel), hlost Query.grouping (by decide +kernel),
    hlost Query.projection (by decide +kernel), hlost Query.projection (by decide +kernel)⟩

end Rendering

end JsonQuery
