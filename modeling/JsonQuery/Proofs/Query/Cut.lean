import JsonQuery.Query.Clause
import Mathlib.Data.List.Forall2
import Mathlib.Tactic

/-!
What it means that tokens are cut into clauses, and that a list is split at its commas. Both
are stated by the parts: a clause is its keywords and a body in which no further clause
starts outside all brackets, and a segment holds no comma outside all brackets. Brackets are
counted from the start of the part. The tokens determine the parts, and the functions that
cut and split find them.
-/

namespace JsonQuery

open Sql

/-- The words that start a clause. -/
def ClauseKind.words : ClauseKind → List String
  | .select => ["SELECT"]
  | .source => ["FROM"]
  | .condition => ["WHERE"]
  | .grouping => ["GROUP", "BY"]
  | .order => ["ORDER", "BY"]
  | .limit => ["LIMIT"]

/-- The tokens are the words that start a clause, in any case of letters. -/
def ClauseKind.Spelled (kind : ClauseKind) (keywords : List Token) : Prop :=
  List.Forall₂ (fun (t : Token) word => t.isWord word = true) keywords kind.words

/-- A clause starts at the first token. -/
def StartsClause (tokens : List Token) : Prop :=
  ∃ (kind : ClauseKind) (keywords rest : List Token),
    tokens = keywords ++ rest ∧ kind.Spelled keywords

/-- The depth of brackets behind some tokens. -/
def depthBehind (depth : Nat) (tokens : List Token) : Nat := tokens.foldl depthAfter depth

/-- No clause starts inside a body outside all brackets, whose depth counts from the given
one. What follows the body matters to keywords of two words. -/
def NoClause (depth : Nat) (body rest : List Token) : Prop :=
  ∀ before after, body = before ++ after → after ≠ [] → depthBehind depth before = 0 →
    ¬ StartsClause (after ++ rest)

/-- The tokens are cut into blocks: each block is the keywords of a clause and a body in which
no clause starts, and the next block starts outside all brackets. -/
inductive Cut : List Token → List Block → Prop
  | nil : Cut [] []
  | cons {kind : ClauseKind} {keyword : Token} {more body rest : List Token}
      {blocks : List Block} (hkeywords : kind.Spelled (keyword :: more))
      (hbody : NoClause 0 body rest) (hclosed : rest = [] ∨ depthBehind 0 body = 0)
      (hrest : Cut rest blocks) :
      Cut (keyword :: (more ++ (body ++ rest))) (⟨kind, keyword, body⟩ :: blocks)

theorem depthBehind_append (depth : Nat) (before after : List Token) :
    depthBehind depth (before ++ after) = depthBehind (depthBehind depth before) after :=
  List.foldl_append

theorem depthBehind_comma (depth : Nat) {comma : Token} (hcomma : comma.kind = .comma)
    (rest : List Token) : depthBehind depth (comma :: rest) = depthBehind depth rest := by
  rw [depthBehind, List.foldl_cons, depthAfter, hcomma]
  rfl

theorem isWord_iff {t : Token} {word : String} :
    t.isWord word = true ↔ t.isBare = true ∧ t.upper = word := by
  rw [Token.isWord, Bool.and_eq_true, beq_iff_eq]

/-- A word that is followed by another one is spelled with the first token behind it. -/
theorem exists_followed_by {t : Token} {rest : List Token} {first : String}
    (h : (t.isWord first && match rest.head? with
      | some b => b.isWord "BY"
      | none => false) = true) :
    ∃ b, List.Forall₂ (fun (t : Token) word => t.isWord word = true) [t, b] [first, "BY"] ∧
      rest = b :: rest.tail := by
  obtain ⟨hfirst, hnext⟩ := Bool.and_eq_true_iff.mp h
  cases rest with
  | nil => exact absurd hnext Bool.false_ne_true
  | cons b rest => exact ⟨b, .cons hfirst (.cons hnext .nil), rfl⟩

/-- The clause found at a token is spelled there, and the tokens behind its keywords are those
the cut goes on with. -/
theorem spelled_of_clauseStart? {t : Token} {rest : List Token} {kind : ClauseKind} {wide : Bool}
    (h : clauseStart? t rest.head? = some (kind, wide)) :
    ∃ more, kind.Spelled (t :: more) ∧ rest = more ++ if wide then rest.tail else rest := by
  unfold clauseStart? at h
  dsimp only at h
  split_ifs at h with hselect hsource hcondition hlimit horder hgrouping
  · cases h
    exact ⟨[], .cons hselect .nil, rfl⟩
  · cases h
    exact ⟨[], .cons hsource .nil, rfl⟩
  · cases h
    exact ⟨[], .cons hcondition .nil, rfl⟩
  · cases h
    exact ⟨[], .cons hlimit .nil, rfl⟩
  · cases h
    obtain ⟨b, hspelled, hrest⟩ := exists_followed_by horder
    exact ⟨[b], hspelled, hrest⟩
  · cases h
    obtain ⟨b, hspelled, hrest⟩ := exists_followed_by hgrouping
    exact ⟨[b], hspelled, hrest⟩

/-- A clause that is spelled at a token is found there. -/
theorem clauseStart?_of_spelled {kind : ClauseKind} {t : Token} {more : List Token}
    (h : kind.Spelled (t :: more)) (rest : List Token) :
    ∃ wide, clauseStart? t (more ++ rest).head? = some (kind, wide) ∧
      (if wide then (more ++ rest).tail else more ++ rest) = rest := by
  obtain ⟨hword, hmore⟩ : t.isWord (kind.words.headD "") = true ∧
      List.Forall₂ (fun (t : Token) word => t.isWord word = true) more kind.words.tail := by
    cases kind <;> exact List.forall₂_cons.mp h
  obtain ⟨hbare, hupper⟩ := isWord_iff.mp hword
  cases kind with
  | select | source | condition | limit =>
      rw [List.forall₂_nil_right_iff.mp hmore]
      exact ⟨false, by simp [clauseStart?, Token.isWord, hbare, hupper, ClauseKind.words], rfl⟩
  | grouping | order =>
      obtain ⟨b, none, hb, hnone, rfl⟩ := List.forall₂_cons_right_iff.mp hmore
      rw [List.forall₂_nil_right_iff.mp hnone]
      obtain ⟨hbare', hupper'⟩ := isWord_iff.mp hb
      refine ⟨true, ?_, rfl⟩
      simp [clauseStart?, Token.isWord, hbare, hupper, hbare', hupper', ClauseKind.words]

/-- No clause is found at a token exactly if none starts there. -/
theorem clauseStart?_eq_none_iff {t : Token} {rest : List Token} :
    clauseStart? t rest.head? = none ↔ ¬ StartsClause (t :: rest) := by
  constructor
  · rintro hnone ⟨kind, keywords, others, htokens, hspelled⟩
    cases keywords with
    | nil => cases kind <;> exact absurd hspelled.length_eq (by decide)
    | cons first more =>
        obtain ⟨rfl, rfl⟩ := List.cons.inj htokens
        obtain ⟨wide, hsome, -⟩ := clauseStart?_of_spelled hspelled others
        exact Option.some_ne_none _ (hsome.symm.trans hnone)
  · intro h
    cases hfound : clauseStart? t rest.head? with
    | none => rfl
    | some start =>
        obtain ⟨more, hspelled, hrest⟩ := spelled_of_clauseStart? hfound
        exact absurd ⟨start.1, t :: more, _, congrArg (t :: ·) hrest, hspelled⟩ h

theorem NoClause.nil (depth : Nat) (rest : List Token) : NoClause depth [] rest := by
  intro before after hsplit hafter
  exact absurd (List.append_eq_nil_iff.mp hsplit.symm).2 hafter

/-- No clause starts inside a body if none starts at its first token outside all brackets,
and none inside what is left behind it. -/
theorem NoClause.cons_iff {depth : Nat} {t : Token} {body rest : List Token} :
    NoClause depth (t :: body) rest ↔
      (depth = 0 → ¬ StartsClause (t :: (body ++ rest))) ∧
        NoClause (depthAfter depth t) body rest := by
  constructor
  · intro h
    refine ⟨fun hdepth => h [] (t :: body) rfl (List.cons_ne_nil _ _) hdepth, ?_⟩
    intro before after hsplit hafter hbehind
    exact h (t :: before) after (by rw [hsplit, List.cons_append]) hafter hbehind
  · rintro ⟨hfirst, hrest⟩ before after hsplit hafter hbehind
    cases before with
    | nil =>
        rw [List.nil_append] at hsplit
        rw [← hsplit]
        exact hfirst hbehind
    | cons _ before =>
        obtain ⟨rfl, hbody⟩ := List.cons.inj hsplit
        exact hrest before after hbody hafter hbehind

/-- The tokens before the next clause hold no start of one, they end outside all brackets if
there is a next clause, and the tokens from there on are cut into the blocks. -/
theorem cutFrom_cut (depth : Nat) (tokens : List Token) :
    ∃ rest, tokens = (cutFrom depth tokens).1 ++ rest ∧
      NoClause depth (cutFrom depth tokens).1 rest ∧
      (rest = [] ∨ depthBehind depth (cutFrom depth tokens).1 = 0) ∧
      Cut rest (cutFrom depth tokens).2 := by
  fun_induction cutFrom depth tokens with
  | case1 depth => exact ⟨[], rfl, .nil depth [], .inl rfl, .nil⟩
  | case2 depth t rest kind wide hstart body blocks hcut ih =>
      rw [hcut] at ih
      obtain ⟨later, hlater, hbody, hclosed, hblocks⟩ := ih
      split at hstart
      · rename_i houter
        obtain ⟨more, hspelled, hmore⟩ := spelled_of_clauseStart? hstart
        have hrest : rest = more ++ (body ++ later) := hmore.trans (congrArg (more ++ ·) hlater)
        refine ⟨t :: rest, rfl, .nil depth _, .inr (beq_iff_eq.mp houter), ?_⟩
        rw [hrest]
        exact .cons hspelled hbody hclosed hblocks
      · exact absurd hstart (Option.some_ne_none _).symm
  | case3 depth t rest hstart body blocks hcut ih =>
      rw [hcut] at ih
      obtain ⟨later, hlater, hbody, hclosed, hblocks⟩ := ih
      refine ⟨later, ?_, NoClause.cons_iff.mpr ⟨?_, hbody⟩, hclosed, hblocks⟩
      · rw [List.cons_append, ← hlater]
      · intro hdepth
        rw [dif_pos (beq_iff_eq.mpr hdepth)] at hstart
        rw [← hlater]
        exact clauseStart?_eq_none_iff.mp hstart

/-- At a clause that starts outside all brackets no token stands before it. -/
theorem cutFrom_of_startsClause {tokens : List Token} (h : StartsClause tokens) :
    (cutFrom 0 tokens).1 = [] := by
  obtain ⟨body, htokens, hbody, -, -⟩ := cutFrom_cut 0 tokens
  by_contra hne
  rw [htokens] at h
  exact hbody [] _ rfl hne rfl h

/-- The tokens before the next clause are those of a body in which no clause starts, if the
tokens end behind the body or a clause starts there outside all brackets. -/
theorem cutFrom_of_noClause {depth : Nat} {body rest : List Token}
    (hbody : NoClause depth body rest)
    (hnext : rest = [] ∨ depthBehind depth body = 0 ∧ StartsClause rest) :
    cutFrom depth (body ++ rest) = (body, (cutFrom 0 rest).2) := by
  induction body generalizing depth with
  | nil =>
      rcases hnext with rfl | ⟨hdepth, hstarts⟩
      · rw [List.nil_append, cutFrom, cutFrom]
      · have houter : depth = 0 := hdepth
        rw [List.nil_append, houter]
        exact Prod.ext (cutFrom_of_startsClause hstarts) rfl
  | cons t body ih =>
      obtain ⟨hfirst, hlater⟩ := NoClause.cons_iff.mp hbody
      have hnone : (if depth == 0 then clauseStart? t (body ++ rest).head? else none) = none := by
        split
        · rename_i houter
          exact clauseStart?_eq_none_iff.mpr (hfirst (beq_iff_eq.mp houter))
        · rfl
      rw [List.cons_append, cutFrom, hnone]
      dsimp only
      rw [ih hlater hnext]

/-- The words that clauses start with. -/
def clauseWords : List String := ["SELECT", "FROM", "WHERE", "LIMIT", "ORDER", "GROUP"]

/-- At any other token no clause starts, whatever follows. -/
theorem clauseStart?_eq_none {t : Token} (h : ∀ word ∈ clauseWords, t.isWord word = false)
    (next : Option Token) : clauseStart? t next = none := by
  simp only [clauseWords, List.forall_mem_cons] at h
  obtain ⟨hselect, hsource, hcondition, hlimit, horder, hgrouping, -⟩ := h
  simp [clauseStart?, hselect, hsource, hcondition, hlimit, horder, hgrouping]

/-- A clause with a keyword of one word goes on to the next clause. -/
theorem cutFrom_cons_of_clause {t : Token} {kind : ClauseKind} {word : String}
    (hwords : kind.words = [word]) (ht : t.isWord word = true) (rest : List Token) :
    cutFrom 0 (t :: rest) = ([], ⟨kind, t, (cutFrom 0 rest).1⟩ :: (cutFrom 0 rest).2) := by
  have hstart : clauseStart? t rest.head? = some (kind, false) := by
    obtain ⟨hbare, hupper⟩ := isWord_iff.mp ht
    cases kind with
    | grouping | order => exact absurd hwords (by simp [ClauseKind.words])
    | select | source | condition | limit =>
        obtain rfl := List.singleton_inj.mp hwords
        simp [clauseStart?, Token.isWord, hbare, hupper]
  rw [cutFrom, if_pos BEq.rfl, hstart]
  rfl

/-- A token that starts no clause and is no bracket belongs to the clause before it. -/
theorem cutFrom_cons_of_plain {depth : Nat} {t : Token}
    (ht : ∀ word ∈ clauseWords, t.isWord word = false) (hdepth : depthAfter depth t = depth)
    (rest : List Token) :
    cutFrom depth (t :: rest) = (t :: (cutFrom depth rest).1, (cutFrom depth rest).2) := by
  have hnone : (if depth == 0 then clauseStart? t rest.head? else none) = none := by
    rw [clauseStart?_eq_none ht, ite_self]
  rw [cutFrom, hnone, hdepth]

/-- Tokens that are cut into blocks have none or start with a clause. -/
theorem Cut.eq_nil_or_startsClause {tokens : List Token} {blocks : List Block}
    (h : Cut tokens blocks) : tokens = [] ∨ StartsClause tokens := by
  cases h with
  | nil => exact .inl rfl
  | cons hkeywords _ _ _ => exact .inr ⟨_, _ :: _, _, rfl, hkeywords⟩

/-- Tokens are cut into one list of blocks only. -/
theorem Cut.eq_cut {tokens : List Token} {blocks : List Block} (h : Cut tokens blocks) :
    cut tokens = blocks := by
  induction h with
  | nil => rw [cut, cutFrom]
  | @cons kind keyword more body rest blocks hkeywords hbody hclosed hrest ih =>
      obtain ⟨wide, hstart, hbehind⟩ := clauseStart?_of_spelled hkeywords (body ++ rest)
      have hnext : rest = [] ∨ depthBehind 0 body = 0 ∧ StartsClause rest := by
        rcases hrest.eq_nil_or_startsClause with hnil | hstarts
        · exact .inl hnil
        · exact hclosed.imp_right fun hdepth => ⟨hdepth, hstarts⟩
      rw [cut, cutFrom, hstart, if_pos BEq.rfl]
      dsimp only
      rw [hbehind, cutFrom_of_noClause hbody hnext]
      exact congrArg (_ :: ·) ih

/-- Tokens that start with a clause are cut into the blocks the cut finds, and into no
others. -/
theorem cut_iff {tokens : List Token} {blocks : List Block} (h : StartsClause tokens) :
    Cut tokens blocks ↔ cut tokens = blocks := by
  constructor
  · exact Cut.eq_cut
  · rintro rfl
    obtain ⟨rest, htokens, -, -, hcut⟩ := cutFrom_cut 0 tokens
    rw [cutFrom_of_startsClause h, List.nil_append] at htokens
    rwa [← htokens] at hcut

/-- The semicolons at the end stand behind every other token. -/
theorem dropTerminators_append {front back : List Token} {t : Token} (ht : t.kind ≠ .other) :
    dropTerminators (front ++ t :: back) = front ++ t :: dropTerminators back := by
  have hkeep : (t.kind == .other && t.value == ";") = false := by
    rw [beq_false_of_ne ht, Bool.false_and]
  rw [dropTerminators, dropTerminators, List.reverse_append, List.reverse_cons, List.append_assoc,
    List.dropWhile_append]
  split
  · rename_i hempty
    rw [List.isEmpty_iff.mp hempty]
    simp [hkeep]
  · simp

section Commas

/-- The tokens hold no comma outside all brackets, whose depth counts from the given one. -/
def NoComma (depth : Nat) (segment : List Token) : Prop :=
  ∀ before t after, segment = before ++ t :: after → t.kind = .comma →
    depthBehind depth before ≠ 0

/-- The tokens are segments with a comma between each and the next, outside all brackets, and
with no such comma inside. -/
inductive CommaSegments : Nat → List Token → List (List Token) → Prop
  | one {depth : Nat} {segment : List Token} (hplain : NoComma depth segment) :
      CommaSegments depth segment [segment]
  | cons {depth : Nat} {segment rest : List Token} {comma : Token}
      {segments : List (List Token)} (hplain : NoComma depth segment)
      (hdepth : depthBehind depth segment = 0) (hcomma : comma.kind = .comma)
      (hrest : CommaSegments 0 rest segments) :
      CommaSegments depth (segment ++ comma :: rest) (segment :: segments)

theorem NoComma.nil (depth : Nat) : NoComma depth [] := by
  intro before t after hsplit
  exact absurd (List.append_eq_nil_iff.mp hsplit.symm).2 (List.cons_ne_nil _ _)

theorem NoComma.cons_iff {depth : Nat} {t : Token} {segment : List Token} :
    NoComma depth (t :: segment) ↔
      (t.kind = .comma → depth ≠ 0) ∧ NoComma (depthAfter depth t) segment := by
  constructor
  · intro h
    refine ⟨fun hcomma => h [] t segment rfl hcomma, ?_⟩
    intro before u after hsplit hcomma
    exact h (t :: before) u after (by rw [hsplit, List.cons_append]) hcomma
  · rintro ⟨hfirst, hrest⟩ before u after hsplit hcomma
    cases before with
    | nil =>
        obtain ⟨rfl, -⟩ := List.cons.inj hsplit
        exact hfirst hcomma
    | cons _ before =>
        obtain ⟨rfl, hsegment⟩ := List.cons.inj hsplit
        exact hrest before u after hsegment hcomma

/-- A token that is no comma is a segment. -/
theorem commaSegments_singleton {t : Token} (ht : t.kind ≠ .comma) : CommaSegments 0 [t] [[t]] :=
  .one (NoComma.cons_iff.mpr ⟨fun hcomma => absurd hcomma ht, .nil _⟩)

/-- A token that does not part segments belongs to the first one. -/
theorem CommaSegments.cons_token {depth : Nat} {t : Token} {tokens segment : List Token}
    {segments : List (List Token)} (ht : t.kind = .comma → depth ≠ 0)
    (h : CommaSegments (depthAfter depth t) tokens (segment :: segments)) :
    CommaSegments depth (t :: tokens) ((t :: segment) :: segments) := by
  cases h with
  | one hplain => exact .one (NoComma.cons_iff.mpr ⟨ht, hplain⟩)
  | cons hplain hdepth hcomma hrest =>
      exact .cons (NoComma.cons_iff.mpr ⟨ht, hplain⟩) hdepth hcomma hrest

theorem commaSegments_splitAtCommas (depth : Nat) (tokens : List Token) :
    CommaSegments depth tokens (splitAtCommas depth tokens) := by
  induction tokens generalizing depth with
  | nil => exact .one (.nil depth)
  | cons t rest ih =>
      rw [splitAtCommas]
      split
      · rename_i hparts
        obtain ⟨hcomma, hdepth⟩ := Bool.and_eq_true_iff.mp hparts
        obtain rfl := beq_iff_eq.mp hdepth
        exact .cons (.nil 0) rfl (beq_iff_eq.mp hcomma) (ih 0)
      · rename_i hbelongs
        have ht : t.kind = .comma → depth ≠ 0 := by
          rintro hcomma rfl
          exact hbelongs (Bool.and_eq_true_iff.mpr ⟨beq_iff_eq.mpr hcomma, rfl⟩)
        have hrest := ih (depthAfter depth t)
        generalize splitAtCommas (depthAfter depth t) rest = parts at hrest ⊢
        cases parts with
        | nil => nomatch hrest
        | cons segment segments => exact hrest.cons_token ht

/-- The tokens of a segment stay together. -/
theorem splitAtCommas_append {depth : Nat} {segment rest : List Token}
    (h : NoComma depth segment) {first : List Token} {segments : List (List Token)}
    (hrest : splitAtCommas (depthBehind depth segment) rest = first :: segments) :
    splitAtCommas depth (segment ++ rest) = (segment ++ first) :: segments := by
  induction segment generalizing depth with
  | nil => exact hrest
  | cons t segment ih =>
      obtain ⟨ht, hlater⟩ := NoComma.cons_iff.mp h
      have hbelongs : (t.kind == .comma && depth == 0) = false := by
        rw [Bool.and_eq_false_imp]
        intro hcomma
        exact beq_false_of_ne (ht (beq_iff_eq.mp hcomma))
      rw [List.cons_append, splitAtCommas, hbelongs, if_neg Bool.false_ne_true,
        ih hlater hrest]
      rfl

/-- Tokens have the segments that splitting finds, and no others. -/
theorem commaSegments_iff {depth : Nat} {tokens : List Token} {segments : List (List Token)} :
    CommaSegments depth tokens segments ↔ splitAtCommas depth tokens = segments := by
  constructor
  · intro h
    induction h with
    | @one depth segment hplain =>
        have hsplit : splitAtCommas depth (segment ++ []) = [segment ++ []] :=
          splitAtCommas_append hplain rfl
        rwa [List.append_nil] at hsplit
    | @cons depth segment rest comma segments hplain hdepth hcomma hrest ih =>
        have hparts : splitAtCommas (depthBehind depth segment) (comma :: rest) =
            [] :: segments := by
          rw [hdepth, splitAtCommas, hcomma, ih]
          rfl
        rw [splitAtCommas_append hplain hparts, List.append_nil]
  · rintro rfl
    exact commaSegments_splitAtCommas depth tokens

end Commas

end JsonQuery
