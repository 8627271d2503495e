import JsonQuery.Proofs.Query.Reading
import Mathlib.Data.List.Find
import Mathlib.Tactic

/-!
The order of the clauses behind the selection list. A clause ends where all its brackets are
closed, so where the next one begins does not depend on which one that is: passages put one
behind the other are cut into their blocks again. Each block is then looked up by its kind, and
what it is read as depends on the spelling of its tokens and not on their places. Only the
entries of the selection list keep their places, since they are shown as they stand in the text.
-/

namespace JsonQuery

open Outcome Sql

/-- A token without its place. -/
def Sql.Token.unplaced (t : Token) : Token := { t with start := 0, stop := 0 }

/-- What a query asks for, whatever its text was and whatever there was to be said about it. -/
def Query.meaning (q : Query) : Query := { q with text := "", warnings := [] }

section Following

variable {depth : Nat} {body rest : List Token}

/-- No clause starts inside a body with others behind it if none starts inside it alone. -/
theorem NoClause.followed (h : NoClause depth body []) (hrest : BeginsApart rest) :
    NoClause depth body rest := by
  have hstill : body.map (Token.moved 0) = body := List.map_id body
  rw [← hstill] at h ⊢
  exact h.map_moved 0 hrest

/-- No clause starts inside a body that stands alone if none is cut from it. -/
theorem noClause_of_cutFrom (h : (cutFrom depth body).2 = []) : NoClause depth body [] := by
  obtain ⟨rest, hbody, hnone, -, hcut⟩ := cutFrom_cut depth body
  rw [h] at hcut
  cases hcut
  rw [List.append_nil] at hbody
  rwa [← hbody] at hnone

end Following

/-- A clause by itself: its keywords, and a body that leaves no bracket open and in which no
other clause starts outside all brackets. The body may be anything else. -/
structure Passage where
  kind : ClauseKind
  keyword : Token
  more : List Token
  body : List Token
  spelled : kind.Spelled (keyword :: more)
  single : NoClause 0 body []
  closed : depthBehind 0 body = 0

namespace Passage

/-- The tokens of a clause. -/
def tokens (p : Passage) : List Token := p.keyword :: (p.more ++ p.body)

/-- The block a clause makes. -/
def block (p : Passage) : Block := ⟨p.kind, p.keyword, p.body⟩

/-- Which clause it is, and the tokens behind its keywords without their places. -/
def spelling (p : Passage) : ClauseKind × List Token := (p.kind, p.body.map Token.unplaced)

end Passage

/-- The tokens of clauses that stand one behind the other. -/
def passageTokens (ps : List Passage) : List Token := ps.flatMap Passage.tokens

/-- Clauses that stand one behind the other are cut apart again. -/
theorem cut_passageTokens (ps : List Passage) :
    Cut (passageTokens ps) (ps.map Passage.block) := by
  induction ps with
  | nil => exact .nil
  | cons p ps ih =>
      have htokens : passageTokens (p :: ps) =
          p.keyword :: (p.more ++ (p.body ++ passageTokens ps)) := by
        simp [passageTokens, Passage.tokens]
      rw [htokens]
      exact .cons p.spelled (p.single.followed ih.beginsApart) (.inr p.closed) ih

/-- The body that is found among clauses is spelled like the first of them of its kind. -/
theorem bodyOf?_passages (ps : List Passage) (kind : ClauseKind) :
    (bodyOf? (ps.map Passage.block) kind).map (List.map Token.unplaced) =
      ((ps.map Passage.spelling).find? fun spelling => spelling.1 == kind).map Prod.snd := by
  rw [bodyOf?, List.find?_map, List.find?_map, Option.map_map, Option.map_map, Option.map_map]
  rfl

/-- Clauses of different kinds are found in any order of them. -/
theorem bodyOf?_perm {ps ps' : List Passage} (honce : (ps.map Passage.kind).Nodup)
    (hperm : (ps.map Passage.spelling).Perm (ps'.map Passage.spelling)) (kind : ClauseKind) :
    (bodyOf? (ps.map Passage.block) kind).map (List.map Token.unplaced) =
      (bodyOf? (ps'.map Passage.block) kind).map (List.map Token.unplaced) := by
  have hkinds : ((ps.map Passage.spelling).map Prod.fst).Nodup := by
    rw [List.map_map]
    exact honce
  have hfound : (ps.map Passage.spelling).find? (fun spelling => spelling.1 == kind) =
      (ps'.map Passage.spelling).find? fun spelling => spelling.1 == kind := by
    -- No two clauses are of one kind, so which of them stands first is no question.
    apply List.find?_eq_find?_of_perm hperm
    rintro a ⟨ha, hakind⟩ b ⟨hb, hbkind⟩
    apply List.inj_on_of_nodup_map hkinds ha hb
    exact (beq_iff_eq.mp hakind).trans (beq_iff_eq.mp hbkind).symm
  rw [bodyOf?_passages, bodyOf?_passages, hfound]

section Readers

variable {text text' : List Char} {tokens : List Token}

/-- A reading of tokens makes nothing of their places and of the text they came from. -/
def Placeless {α : Type} (read : List Char → List Token → α) : Prop :=
  ∀ text text' tokens, read text' (tokens.map Token.unplaced) = read text tokens

/-- Tokens that are spelled alike are read alike. -/
theorem Placeless.read_eq {α : Type} {read : List Char → List Token → α} (h : Placeless read)
    {tokens tokens' : List Token}
    (hspelling : tokens.map Token.unplaced = tokens'.map Token.unplaced) :
    read text tokens = read text' tokens' := by
  rw [← h text [], ← h text' [], hspelling]

theorem readSource_placeless : Placeless fun text tokens => (readSource text tokens).1 := by
  intro text text' tokens
  cases tokens with
  | nil => rfl
  | cons name rest =>
      have hname : name.unplaced.isName = name.isName := rfl
      dsimp only [List.map, readSource]
      rw [hname]
      cases name.isName with
      | false => rfl
      | true => cases rest <;> rfl

theorem readCondition_placeless : Placeless fun text tokens => (readCondition text tokens).1 := by
  intro text text' tokens
  match tokens with
  | [] | [_] | [_, _] | [_, _, _] | _ :: _ :: _ :: _ :: _ => rfl

theorem splitAtCommas_unplaced (depth : Nat) (tokens : List Token) :
    splitAtCommas depth (tokens.map Token.unplaced) =
      (splitAtCommas depth tokens).map (List.map Token.unplaced) := by
  induction tokens generalizing depth with
  | nil => rfl
  | cons t tokens ih =>
      have hkind : t.unplaced.kind = t.kind := rfl
      have hdepth : depthAfter depth t.unplaced = depthAfter depth t := rfl
      rw [List.map_cons, splitAtCommas, splitAtCommas, hkind, hdepth, ih, ih]
      split
      · rfl
      · cases splitAtCommas (depthAfter depth t) tokens <;> rfl

theorem segmentName?_unplaced (segment : List Token) :
    segmentName? (segment.map Token.unplaced) = segmentName? segment := by
  match segment with
  | [] | [_] | _ :: _ :: _ => rfl

theorem readGrouping_placeless : Placeless fun _ tokens => (readGrouping tokens).1 := by
  intro text text' tokens
  have hname : segmentName? ∘ List.map Token.unplaced = segmentName? :=
    funext segmentName?_unplaced
  dsimp only
  rw [readGrouping, readGrouping, splitAtCommas_unplaced, List.mapM_map, hname]

theorem directionOf_unplaced (rest : List Token) :
    (directionOf (rest.map Token.unplaced)).1 = (directionOf rest).1 := by
  cases rest with
  | nil => rfl
  | cons t rest =>
      have hword (word : String) : t.unplaced.isWord word = t.isWord word := rfl
      dsimp only [List.map, directionOf]
      rw [hword, hword]
      split_ifs <;> rfl

theorem readOrder_placeless : Placeless fun text tokens => (readOrder text tokens).1 := by
  intro text text' tokens
  cases tokens with
  | nil => rfl
  | cons t rest =>
      cases hname : t.isName with
      | false =>
          have hplain : t.unplaced.isName = false := hname
          dsimp only [List.map, readOrder]
          rw [hname, hplain]
          rfl
      | true =>
          have hplain : t.unplaced.isName = true := hname
          dsimp only [List.map]
          rw [readOrder_cons text t rest hname, readOrder_cons text' t.unplaced _ hplain]
          dsimp only
          rw [directionOf_unplaced]
          rfl

theorem readLimit_placeless :
    Placeless fun text tokens => (readLimit text tokens).map Prod.fst := by
  intro text text' tokens
  cases tokens with
  | nil => rfl
  | cons number rest =>
      dsimp only [List.map, readLimit, Token.unplaced]
      split_ifs <;> rfl

/-- A clause that is present in both of two queries or in none is read alike if its tokens are
spelled alike. -/
theorem readIfPresent_congr {α : Type} {missing : α} {read : List Char → List Token → Warned α}
    (h : Placeless fun text tokens => (read text tokens).1) (text text' : List Char)
    {found found' : Option (List Token)}
    (hspelling : found.map (List.map Token.unplaced) = found'.map (List.map Token.unplaced)) :
    (readIfPresent missing (read text) found).1 =
      (readIfPresent missing (read text') found').1 := by
  cases found with
  | none =>
      rw [Option.map_eq_none_iff.mp hspelling.symm]
      rfl
  | some tokens =>
      obtain ⟨tokens', rfl, htokens⟩ := Option.map_eq_some_iff.mp hspelling.symm
      exact h.read_eq htokens.symm

end Readers

section Selections

variable {text text' : List Char}

/-- Tokens have the same text in two texts that agree up to the end of each of them. -/
theorem sourceText_congr {tokens : List Token}
    (htext : ∀ t ∈ tokens, text.take t.stop = text'.take t.stop) :
    sourceText text tokens = sourceText text' tokens := by
  unfold sourceText
  cases hlast : tokens.getLast? with
  | none => cases tokens.head? <;> rfl
  | some last =>
      have hsame := htext last (List.mem_of_getLast? hlast)
      cases tokens.head? with
      | none => rfl
      | some first =>
          dsimp only
          rw [hsame]

/-- The selection lists of two queries are read alike if they are the same tokens, the texts
agree up to the end of each of them, and both queries have a source or none does. -/
theorem readProjection_congr {blocks blocks' : List Block} {body : List Token}
    (hselect : bodyOf? blocks .select = some body) (hselect' : bodyOf? blocks' .select = some body)
    (hsource : (bodyOf? blocks .source).isNone = (bodyOf? blocks' .source).isNone)
    (hclosed : depthBehind 0 body = 0)
    (htext : ∀ t ∈ body, text.take t.stop = text'.take t.stop) :
    readProjection text blocks = readProjection text' blocks' := by
  have hitem : ∀ segment ∈ (splitAtCommas 0 body).filter fun segment => !segment.isEmpty,
      (⟨sourceText text segment, itemShape segment⟩ : SelectItem) =
        ⟨sourceText text' segment, itemShape segment⟩ := by
    intro segment hsegment
    have hmem := (List.mem_filter.mp hsegment).1
    obtain ⟨before, behind, hbody, -⟩ :=
      (commaSegments_splitAtCommas 0 body).exists_part hclosed segment hmem
    rw [sourceText_congr]
    intro t ht
    apply htext
    rw [hbody]
    simp [ht]
  have hitems := List.map_congr_left hitem
  unfold readProjection
  rw [hselect, hselect', hsource]
  dsimp only [Option.getD_some]
  rw [hitems]

end Selections

section Order

variable {text text' : List Char} {selection : Passage} {later later' : List Passage}

theorem bodyOf?_selection (hselect : selection.kind = .select) (later : List Passage) :
    bodyOf? ((selection :: later).map Passage.block) .select = some selection.body := by
  have hfirst : (selection.block.kind == .select) = true := beq_iff_eq.mpr hselect
  rw [List.map_cons, bodyOf?, List.find?_cons, hfirst]
  rfl

theorem limitOf_congr {blocks blocks' : List Block}
    (h : (bodyOf? blocks .limit).map (List.map Token.unplaced) =
      (bodyOf? blocks' .limit).map (List.map Token.unplaced)) :
    (limitOf text blocks).map Prod.fst = (limitOf text' blocks').map Prod.fst := by
  unfold limitOf
  cases hfound : bodyOf? blocks .limit with
  | none =>
      rw [hfound] at h
      rw [Option.map_eq_none_iff.mp h.symm]
  | some tokens =>
      rw [hfound] at h
      obtain ⟨tokens', hfound', htokens⟩ := Option.map_eq_some_iff.mp h.symm
      rw [hfound']
      exact readLimit_placeless.read_eq htokens.symm

/-- Queries with limits that are read alike are read alike if their other parts are. -/
theorem map_meaning_congr {blocks blocks' : List Block}
    (hlimit : (limitOf text blocks).map Prod.fst = (limitOf text' blocks').map Prod.fst)
    (h : ∀ limit limit' : Warned (Option Nat), limit.1 = limit'.1 →
      (queryWith text blocks limit).meaning = (queryWith text' blocks' limit').meaning) :
    (queryOfBlocks text blocks).map Query.meaning =
      (queryOfBlocks text' blocks').map Query.meaning := by
  rw [queryOfBlocks_eq, queryOfBlocks_eq]
  cases hread : limitOf text blocks with
  | error fault =>
      rw [hread] at hlimit
      rw [map_eq_error.mp hlimit.symm]
      rfl
  | ok limit =>
      rw [hread] at hlimit
      obtain ⟨limit', hread', hsame⟩ := map_eq_ok.mp hlimit.symm
      rw [hread']
      exact congrArg Except.ok (h limit limit' hsame.symm)

/-- Clauses that stand one behind the other are cut apart again, and the order of those behind the
selection list makes no difference. Clauses of different kinds, behind the same selection list,
ask for the same in any order, or their limit is refused in any order. It does not matter either
where the clauses stand in their texts, as long as the texts agree up to the end of the selection
list. -/
theorem queryOfBlocks_perm
    (honce : ((selection :: later).map Passage.kind).Nodup) (hselect : selection.kind = .select)
    (hperm : (later.map Passage.spelling).Perm (later'.map Passage.spelling))
    (htext : ∀ t ∈ selection.body, text.take t.stop = text'.take t.stop) :
    cut (passageTokens (selection :: later)) = (selection :: later).map Passage.block ∧
      (queryOfBlocks text (cut (passageTokens (selection :: later)))).map Query.meaning =
        (queryOfBlocks text' (cut (passageTokens (selection :: later')))).map Query.meaning := by
  have hcut := (cut_passageTokens (selection :: later)).eq_cut
  have hcut' := (cut_passageTokens (selection :: later')).eq_cut
  refine ⟨hcut, ?_⟩
  rw [hcut, hcut']
  have hbody := bodyOf?_selection hselect later
  have hbody' := bodyOf?_selection hselect later'
  have hspellings : ((selection :: later).map Passage.spelling).Perm
      ((selection :: later').map Passage.spelling) := hperm.cons selection.spelling
  have hfound := bodyOf?_perm honce hspellings
  generalize (selection :: later).map Passage.block = blocks at hbody hfound ⊢
  generalize (selection :: later').map Passage.block = blocks' at hbody' hfound ⊢
  have hpresent : (bodyOf? blocks .source).isNone = (bodyOf? blocks' .source).isNone := by
    rw [← Option.isNone_map, hfound, Option.isNone_map]
  -- The entries of the selection list are the only ones that are read with their places.
  have hprojection := readProjection_congr hbody hbody' hpresent selection.closed htext
  refine map_meaning_congr (limitOf_congr (hfound .limit)) fun limit limit' hlimit => ?_
  simp only [queryWith, Query.meaning, Query.mk.injEq]
  refine ⟨trivial, congrArg Prod.fst hprojection, ?_, ?_, ?_, ?_, hlimit, trivial⟩
  · exact readIfPresent_congr readSource_placeless text text' (hfound .source)
  · exact readIfPresent_congr readCondition_placeless text text' (hfound .condition)
  · exact readIfPresent_congr readGrouping_placeless text text' (hfound .grouping)
  · exact readIfPresent_congr readOrder_placeless text text' (hfound .order)

/-- A bracket that closes nothing and a condition without a comparison are in the way of no
clause, wherever they stand. -/
theorem queryOfBlocks_perm_malformed :
    let text := "SELECT a FROM t ) WHERE x LIMIT 5"
    let text' := "SELECT a LIMIT 5 WHERE x FROM t )"
    (cut (tokenize text)).map Block.kind = [.select, .source, .condition, .limit] ∧
      (queryOfBlocks text.toList (cut (tokenize text))).map Query.meaning =
        (queryOfBlocks text'.toList (cut (tokenize text'))).map Query.meaning := by
  intro text text'
  let selection : Passage := ⟨.select, ⟨.word, "SELECT", 0, 6⟩, [], [⟨.word, "a", 7, 8⟩],
    .cons (by decide +kernel) .nil, noClause_of_cutFrom (by decide +kernel), rfl⟩
  let source : Passage := ⟨.source, ⟨.word, "FROM", 9, 13⟩, [],
    [⟨.word, "t", 14, 15⟩, ⟨.rightParen, ")", 16, 17⟩],
    .cons (by decide +kernel) .nil, noClause_of_cutFrom (by decide +kernel), rfl⟩
  let condition : Passage := ⟨.condition, ⟨.word, "WHERE", 18, 23⟩, [], [⟨.word, "x", 24, 25⟩],
    .cons (by decide +kernel) .nil, noClause_of_cutFrom (by decide +kernel), rfl⟩
  let limit : Passage := ⟨.limit, ⟨.word, "LIMIT", 26, 31⟩, [], [⟨.number, "5", 32, 33⟩],
    .cons (by decide +kernel) .nil, noClause_of_cutFrom (by decide +kernel), rfl⟩
  let limit' : Passage := ⟨.limit, ⟨.word, "LIMIT", 9, 14⟩, [], [⟨.number, "5", 15, 16⟩],
    .cons (by decide +kernel) .nil, noClause_of_cutFrom (by decide +kernel), rfl⟩
  let condition' : Passage := ⟨.condition, ⟨.word, "WHERE", 17, 22⟩, [], [⟨.word, "x", 23, 24⟩],
    .cons (by decide +kernel) .nil, noClause_of_cutFrom (by decide +kernel), rfl⟩
  let source' : Passage := ⟨.source, ⟨.word, "FROM", 25, 29⟩, [],
    [⟨.word, "t", 30, 31⟩, ⟨.rightParen, ")", 32, 33⟩],
    .cons (by decide +kernel) .nil, noClause_of_cutFrom (by decide +kernel), rfl⟩
  have htokens : tokenize text = passageTokens [selection, source, condition, limit] := by
    decide +kernel
  have htokens' : tokenize text' = passageTokens [selection, limit', condition', source'] := by
    decide +kernel
  rw [htokens, htokens']
  have honce : ([selection, source, condition, limit].map Passage.kind).Nodup := by decide
  have hperm : ([source, condition, limit].map Passage.spelling).Perm
      ([limit', condition', source'].map Passage.spelling) := by decide
  have htext : ∀ t ∈ selection.body, text.toList.take t.stop = text'.toList.take t.stop := by
    decide +kernel
  obtain ⟨hcut, hmeaning⟩ := queryOfBlocks_perm honce rfl hperm htext
  exact ⟨congrArg (List.map Block.kind) hcut, hmeaning⟩

end Order

end JsonQuery
