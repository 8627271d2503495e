import JsonQuery.Proofs.Query.Reading
import JsonQuery.Proofs.Query.ClauseOrder
import JsonQuery.Proofs.Query.Refusal
import JsonQuery.Proofs.Sql.Layout
import JsonQuery.Proofs.Sql.TrailingWords
import JsonQuery.Query.Report

/-!
A query text with blanks and semicolons behind it. It has the tokens of the text, and semicolons
behind them, so it is read as the same query, which says the same about itself. One text is not:
that with a number sign as its last lexeme, which a space behind it makes the beginning of a
remark.
-/

namespace JsonQuery

open Outcome Sql

section Tokens

variable {cs t : List Char}

/-- A space behind a text makes no remark of its last lexeme. -/
def KeepsLast (before : Option Char) (start : Nat) (cs t : List Char) : Prop :=
  (lexemesAt before start cs).getLast?.map Lexeme.raw = some ['#'] → t.head? ≠ some ' '

theorem KeepsLast.not_remark {before : Option Char} {start : Nat} (h : KeepsLast before start cs t)
    (hcs : cs = ['#']) : t.head? ≠ some ' ' := by
  refine h ?_
  have hraw : (firstLexeme before start ['#']).raw = ['#'] := by
    rw [raw_firstLexeme, List.take_nil]
  rw [hcs, lexemesAt_cons]
  dsimp only
  rw [hraw]
  exact congrArg some hraw

theorem KeepsLast.tail {before : Option Char} {start : Nat} {c : Char}
    (h : KeepsLast before start (c :: cs) t) :
    KeepsLast (firstLexeme before start (c :: cs)).raw.getLast?
      (start + (firstLexeme before start (c :: cs)).raw.length)
      ((c :: cs).drop (firstLexeme before start (c :: cs)).raw.length) t := by
  intro hlast
  refine h ?_
  obtain ⟨last, hmem, hraw⟩ := Option.map_eq_some_iff.mp hlast
  rw [lexemesAt_cons]
  dsimp only
  rw [List.getLast?_cons, hmem]
  exact congrArg some hraw

theorem isTrailer_drop (ht : IsTrailer t) (n : Nat) : IsTrailer (t.drop n) :=
  fun c hc => ht c (List.mem_of_mem_drop hc)

theorem tokensAt_of_isTrailer (before : Option Char) (start : Nat) (ht : IsTrailer t) :
    ∀ token ∈ tokensAt before start t, token.kind = .other ∧ token.value = ";" :=
  tokensAt_terminators before start fun c hc => by
    have hc := ht c hc
    rw [isTrailing, Bool.or_eq_true, beq_iff_eq] at hc
    exact hc.symm

/-- Of a text that is in a remark with all its characters no tokens are left. -/
theorem tokensAt_of_remark {before : Option Char} {n : Nat} (start : Nat) (hne : cs ≠ [])
    (h : classify before (cs ++ t) = (.remark, n)) (hn : cs.length ≤ n) :
    ∃ behind place k, tokensAt before start (cs ++ t) = tokensAt behind place (t.drop k) := by
  obtain ⟨c, cs, rfl⟩ := List.exists_cons_of_ne_nil hne
  rw [List.cons_append] at h ⊢
  have hlength : (c :: cs).length ≤ (firstLexeme before start (c :: (cs ++ t))).raw.length := by
    rw [firstLexeme, h, List.length_take, ← List.cons_append, List.length_append]
    dsimp only
    omega
  have hnone : (firstLexeme before start (c :: (cs ++ t))).tokens = [] := by
    rw [firstLexeme, h]
    rfl
  rw [tokensAt_cons]
  dsimp only
  generalize firstLexeme before start (c :: (cs ++ t)) = first at *
  rw [hnone, List.nil_append, ← List.cons_append, List.drop_append,
    List.drop_eq_nil_of_le hlength, List.nil_append]
  exact ⟨_, _, _, rfl⟩

/-- The tokens of a text with blanks and semicolons behind it are its own, and semicolons. -/
theorem tokensAt_trailer {before : Option Char} {start : Nat} (ht : IsTrailer t)
    (hlast : KeepsLast before start cs t) :
    ∃ later, tokensAt before start (cs ++ t) = tokensAt before start cs ++ later ∧
      ∀ token ∈ later, token.kind = .other ∧ token.value = ";" := by
  induction before, start, cs using lexing_induction with
  | nil before start => exact ⟨_, rfl, tokensAt_of_isTrailer before start ht⟩
  | cons before start c cs ih =>
      have hne := List.cons_ne_nil c cs
      -- The first lexeme stays as it is, or the whole text is in a remark that leaves no tokens.
      rcases @classify_trailer (c :: cs) t before hne ht hlast.not_remark with
        hsame | ⟨n, n', hremark, hremark', hn, hn'⟩
      · have hle : max 1 (classify before (c :: cs)).2 ≤ (c :: cs).length :=
          max_le (List.length_pos_iff.mpr hne) (classify_le hne)
        have hfirst : firstLexeme before start (c :: cs ++ t) =
            firstLexeme before start (c :: cs) := by
          rw [firstLexeme, hsame, List.take_append_of_le_length hle]
          rfl
        have hraw : (firstLexeme before start (c :: cs)).raw.length ≤ (c :: cs).length :=
          List.length_take_le' _ _
        obtain ⟨later, htokens, hlater⟩ := ih hlast.tail
        refine ⟨later, ?_, hlater⟩
        rw [List.cons_append] at hfirst ⊢
        rw [tokensAt_cons, tokensAt_cons, hfirst]
        dsimp only
        rw [← List.cons_append, List.drop_append_of_le_length hraw, htokens, List.append_assoc]
      · obtain ⟨behind, place, k, hnone⟩ :=
          tokensAt_of_remark (t := []) start hne (by rwa [List.append_nil]) hn
        obtain ⟨behind', place', k', hbehind⟩ :=
          tokensAt_of_remark start hne hremark' hn'
        rw [List.append_nil, List.drop_nil] at hnone
        rw [hbehind, hnone]
        exact ⟨_, rfl, tokensAt_of_isTrailer _ _ (isTrailer_drop ht k')⟩

end Tokens

section Texts

variable {text text' : List Char} {tokens : List Token}

theorem mem_of_mem_directionOf : ∀ t ∈ (directionOf tokens).2, t ∈ tokens := by
  intro t ht
  cases tokens with
  | nil => exact ht
  | cons u tokens =>
      dsimp only [directionOf] at ht
      split_ifs at ht
      · exact List.mem_cons_of_mem u ht
      · exact List.mem_cons_of_mem u ht
      · exact ht

/-- Two texts are the same up to the end of each of some tokens. -/
def SameUpTo (text text' : List Char) (tokens : List Token) : Prop :=
  ∀ t ∈ tokens, text.take t.stop = text'.take t.stop

namespace SameUpTo

theorem mono {fewer : List Token} (h : SameUpTo text text' tokens)
    (hfewer : ∀ t ∈ fewer, t ∈ tokens) : SameUpTo text text' fewer :=
  fun t ht => h t (hfewer t ht)

theorem tail {t : Token} (h : SameUpTo text text' (t :: tokens)) : SameUpTo text text' tokens :=
  h.mono fun _ => List.mem_cons_of_mem t

theorem readSource (h : SameUpTo text text' tokens) :
    readSource text tokens = readSource text' tokens := by
  cases tokens with
  | nil => rfl
  | cons name rest =>
      dsimp only [JsonQuery.readSource]
      rw [sourceText_congr h.tail]

theorem readCondition (h : SameUpTo text text' tokens) :
    readCondition text tokens = readCondition text' tokens := by
  unfold JsonQuery.readCondition
  rw [sourceText_congr h]

theorem behindSortKey (h : SameUpTo text text' tokens) (column : String) :
    behindSortKey text column tokens = behindSortKey text' column tokens := by
  unfold JsonQuery.behindSortKey
  rw [sourceText_congr h]

theorem readOrder (h : SameUpTo text text' tokens) :
    readOrder text tokens = readOrder text' tokens := by
  cases tokens with
  | nil => rfl
  | cons t rest =>
      cases hname : t.isName with
      | false =>
          dsimp only [JsonQuery.readOrder]
          rw [hname]
          rfl
      | true =>
          have hbehind := (h.tail.mono mem_of_mem_directionOf).behindSortKey t.value
          rw [readOrder_cons text t rest hname, readOrder_cons text' t rest hname, hbehind]

theorem readLimit (h : SameUpTo text text' tokens) :
    readLimit text tokens = readLimit text' tokens := by
  cases tokens with
  | nil => rfl
  | cons number rest =>
      dsimp only [JsonQuery.readLimit]
      rw [sourceText_congr h.tail]

end SameUpTo

/-- The tokens of a segment are among those it was cut from. -/
theorem CommaSegments.mem_of_mem {depth : Nat} {segments : List (List Token)}
    (h : CommaSegments depth tokens segments) :
    ∀ segment ∈ segments, ∀ t ∈ segment, t ∈ tokens := by
  induction h with
  | one _ =>
      intro segment hsegment t ht
      rwa [List.mem_singleton.mp hsegment] at ht
  | cons _ _ _ _ ih =>
      intro segment hsegment t ht
      rcases List.mem_cons.mp hsegment with rfl | hlater
      · exact List.mem_append_left _ ht
      · exact List.mem_append_right _ (List.mem_cons_of_mem _ (ih segment hlater t ht))

/-- A query without its text. -/
def Query.untitled (q : Query) : Query := { q with text := "" }

section Blocks

variable {blocks : List Block}

theorem sameUpTo_bodyOf? (h : ∀ b ∈ blocks, SameUpTo text text' b.body) (kind : ClauseKind) :
    ∀ body, bodyOf? blocks kind = some body → SameUpTo text text' body := by
  intro body hbody
  obtain ⟨b, hb, -, rfl⟩ := exists_of_bodyOf? hbody
  exact h b hb

theorem readIfPresent_sameUpTo {α : Type} (h : ∀ b ∈ blocks, SameUpTo text text' b.body)
    {read read' : List Token → Warned α}
    (hread : ∀ tokens, SameUpTo text text' tokens → read tokens = read' tokens) (missing : α)
    (kind : ClauseKind) :
    readIfPresent missing read (bodyOf? blocks kind) =
      readIfPresent missing read' (bodyOf? blocks kind) := by
  cases hbody : bodyOf? blocks kind with
  | none => rfl
  | some body => exact hread body (sameUpTo_bodyOf? h kind body hbody)

theorem readProjection_sameUpTo (h : ∀ b ∈ blocks, SameUpTo text text' b.body) :
    readProjection text blocks = readProjection text' blocks := by
  have hbody : SameUpTo text text' ((bodyOf? blocks .select).getD []) := by
    cases hselect : bodyOf? blocks .select with
    | none => exact fun t ht => absurd ht List.not_mem_nil
    | some body => exact sameUpTo_bodyOf? h .select body hselect
  unfold readProjection
  dsimp only
  generalize (bodyOf? blocks .select).getD [] = body at *
  have hitem : ∀ segment ∈ (splitAtCommas 0 body).filter fun segment => !segment.isEmpty,
      (⟨sourceText text segment, itemShape segment⟩ : SelectItem) =
        ⟨sourceText text' segment, itemShape segment⟩ := by
    intro segment hsegment
    have hmem := (commaSegments_splitAtCommas 0 body).mem_of_mem segment
      (List.mem_filter.mp hsegment).1
    rw [sourceText_congr (hbody.mono hmem)]
  rw [List.map_congr_left hitem]

/-- The clauses of two texts are read alike if the texts are the same up to the end of each of
them. -/
theorem queryOfBlocks_sameUpTo (h : ∀ b ∈ blocks, SameUpTo text text' b.body) :
    (queryOfBlocks text blocks).map Query.untitled =
      (queryOfBlocks text' blocks).map Query.untitled := by
  have hlimit : limitOf text blocks = limitOf text' blocks := by
    unfold limitOf
    cases hbody : bodyOf? blocks .limit with
    | none => rfl
    | some body => exact (sameUpTo_bodyOf? h .limit body hbody).readLimit
  have hquery (limit : Warned (Option Nat)) :
      (queryWith text blocks limit).untitled = (queryWith text' blocks limit).untitled := by
    simp only [queryWith, Query.untitled]
    rw [readProjection_sameUpTo h,
      readIfPresent_sameUpTo h (fun _ => SameUpTo.readSource) none .source,
      readIfPresent_sameUpTo h (fun _ => SameUpTo.readCondition) none .condition,
      readIfPresent_sameUpTo h (fun _ => SameUpTo.readOrder) none .order]
  rw [queryOfBlocks_eq, queryOfBlocks_eq, hlimit]
  cases limitOf text' blocks with
  | error fault => rfl
  | ok limit => exact congrArg Except.ok (hquery limit)

end Blocks

/-- The tokens of the blocks of some tokens are among these. -/
theorem mem_of_mem_cut {b : Block} (hb : b ∈ cut tokens) : ∀ t ∈ b.body, t ∈ tokens := by
  intro t ht
  obtain ⟨rest, htokens, -, -, hcut⟩ := cutFrom_cut 0 tokens
  obtain ⟨before, after, hrest, -⟩ := hcut.exists_body b hb
  rw [htokens, hrest]
  exact List.mem_append_right _ (List.mem_append_right _ (List.mem_append_left _ ht))

theorem mem_of_mem_dropTerminators : ∀ t ∈ dropTerminators tokens, t ∈ tokens := by
  intro t ht
  exact List.mem_reverse.mp ((List.dropWhile_sublist _).mem (List.mem_reverse.mp ht))

end Texts

section Parsing

variable {text text' : String} {t : List Char}

/-- Blanks and semicolons behind a text make no difference to the query that is read. -/
theorem parse_trailer (htext : (Text.strip text').toList = (Text.strip text).toList ++ t)
    (ht : IsTrailer t) (hne : Text.strip text ≠ "")
    (hlast : KeepsLast none 0 (Text.strip text).toList t) :
    (Query.parse text').map Query.untitled = (Query.parse text).map Query.untitled := by
  have hne' : Text.strip text' ≠ "" := by
    intro hnone
    rw [hnone] at htext
    exact hne (String.toList_eq_nil_iff.mp (List.append_eq_nil_iff.mp htext.symm).1)
  obtain ⟨later, htokens, hlater⟩ := tokensAt_trailer ht hlast
  have hsame : queryTokens text' = queryTokens text := by
    rw [queryTokens, queryTokens, tokenize_eq, tokenize_eq, htext, htokens,
      dropTerminators_append_terminators hlater]
  by_cases hselects : StartsSelection text
  · obtain ⟨first, rest, hfirst, hselect⟩ := hselects
    rw [parse_of_queryTokens hfirst hselect,
      parse_of_queryTokens (hsame.trans hfirst) hselect, hsame]
    refine queryOfBlocks_sameUpTo fun b hb token htoken => ?_
    have hmem := mem_of_mem_dropTerminators token (mem_of_mem_cut hb token htoken)
    have hstop := ((tokensAt_laid none 0 (Text.strip text).toList).within token hmem).2.2
    rw [Nat.zero_add] at hstop
    rw [htext, List.take_append_of_le_length hstop]
  · have hselects' : ¬ StartsSelection text' := by
      rintro ⟨first, rest, hfirst, hselect⟩
      exact hselects ⟨first, rest, hsame.symm.trans hfirst, hselect⟩
    rw [parse_eq_notSelection hne hselects, parse_eq_notSelection hne' hselects']

/-- What a query answers does not depend on its text. -/
theorem Query.run_untitled (grouping : Bool) (q : Query) (rows : List Record) :
    q.untitled.run grouping rows = q.run grouping rows := rfl

/-- Blanks and semicolons behind a text make no difference to what it answers. -/
theorem execute_trailer (htext : (Text.strip text').toList = (Text.strip text).toList ++ t)
    (ht : IsTrailer t) (hne : Text.strip text ≠ "")
    (hlast : KeepsLast none 0 (Text.strip text).toList t) (grouping : Bool)
    (dataset : Option Dataset) : execute grouping dataset text' = execute grouping dataset text := by
  have huntitled (text : String) (rows : List Record) :
      ((Query.parse text).bind fun q => q.run grouping rows) =
        ((Query.parse text).map Query.untitled).bind fun q => q.run grouping rows := by
    cases Query.parse text with
    | error fault => rfl
    | ok q => exact (q.run_untitled grouping rows).symm
  have hparse := parse_trailer htext ht hne hlast
  unfold execute
  refine congrArg (Except.bind _) (funext fun rows => ?_)
  exact (huntitled text' rows).trans ((congrArg (Except.bind · _) hparse).trans
    (huntitled text rows).symm)

end Parsing

end JsonQuery
