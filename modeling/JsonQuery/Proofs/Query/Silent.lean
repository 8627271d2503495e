import JsonQuery.Proofs.Outcome
import JsonQuery.Proofs.Query.Grammar
import Mathlib.Tactic

/-!
A query is read without a warning exactly if its text is of the grammar. The warnings are
those about the cut and those about each clause, so their absence says that no clause comes
twice and each was read as it stands. In the other direction the warning about a name that is
expected needs the cut: behind a body of the grammar it can be given only inside brackets, and
no clause starts there.
-/

namespace JsonQuery

open Outcome Sql

section Blocks

variable {blocks : List Block} {kind : ClauseKind} {body : List Token}

theorem bodyOf?_eq_none : bodyOf? blocks kind = none ↔ ∀ b ∈ blocks, b.kind ≠ kind := by
  rw [bodyOf?, Option.map_eq_none_iff, List.find?_eq_none]
  simp only [beq_iff_eq, ne_eq]

theorem exists_of_bodyOf? (h : bodyOf? blocks kind = some body) :
    ∃ b ∈ blocks, b.kind = kind ∧ b.body = body := by
  obtain ⟨b, hb, hbody⟩ := Option.map_eq_some_iff.mp h
  have hkind := List.find?_some hb
  exact ⟨b, List.mem_of_find?_eq_some hb, beq_iff_eq.mp hkind, hbody⟩

/-- A block whose kind no other one has is the one whose body is read. -/
theorem bodyOf?_of_mem (honce : (blocks.map Block.kind).Nodup) {b : Block} (hb : b ∈ blocks) :
    bodyOf? blocks b.kind = some b.body := by
  cases hbody : bodyOf? blocks b.kind with
  | none => exact absurd rfl (bodyOf?_eq_none.mp hbody b hb)
  | some body =>
      obtain ⟨b', hb', hkind, rfl⟩ := exists_of_bodyOf? hbody
      rw [List.inj_on_of_nodup_map honce hb' hb hkind]

/-- A clause is read from the body of its block, and is missing without one. -/
structure ReadClause {α β : Type} (blocks : List Block) (kind : ClauseKind)
    (Body : List Token → α → Prop) (missing : β) (present : α → β) (result : Warned β) : Prop where
  read : ∀ body, bodyOf? blocks kind = some body → Reads Body present body result
  absent : bodyOf? blocks kind = none → result = (missing, [])

theorem readIfPresent_readClause {α β : Type} {Body : List Token → α → Prop} {missing : β}
    {present : α → β} {read : List Token → Warned β}
    (h : ∀ body, Reads Body present body (read body)) :
    ReadClause blocks kind Body missing present
      (readIfPresent missing read (bodyOf? blocks kind)) := by
  constructor
  · intro body hbody
    rw [hbody]
    exact h body
  · intro hnone
    rw [hnone]
    rfl

variable {α β : Type} {Body : List Token → α → Prop} {missing : β} {present : α → β}
  {result : Warned β}

/-- A clause that is read in silence has a body of its own. -/
theorem ReadClause.exists_body (h : ReadClause blocks kind Body missing present result)
    (honce : (blocks.map Block.kind).Nodup) (hquiet : result.2 = []) :
    ∀ b ∈ blocks, b.kind = kind → ∃ a, Body b.body a := by
  rintro b hb rfl
  exact (h.read b.body (bodyOf?_of_mem honce hb)).sound hquiet

/-- A clause with a body of its own is read in silence, as what the body denotes. -/
theorem ReadClause.spells (h : ReadClause blocks kind Body missing present result)
    (honce : (blocks.map Block.kind).Nodup)
    (hbody : ∀ b ∈ blocks, b.kind = kind → ∃ a, Body b.body a) :
    result.2 = [] ∧ ClauseSpells blocks kind Body missing present result.1 := by
  constructor
  · cases hfound : bodyOf? blocks kind with
    | none => rw [h.absent hfound]
    | some body =>
        obtain ⟨b, hb, hkind, rfl⟩ := exists_of_bodyOf? hfound
        obtain ⟨a, ha⟩ := hbody b hb hkind
        rw [(h.read b.body hfound).complete a ha]
  · constructor
    · rintro b hb rfl
      obtain ⟨a, ha⟩ := hbody b hb rfl
      refine ⟨a, ha, ?_⟩
      rw [(h.read b.body (bodyOf?_of_mem honce hb)).complete a ha]
    · intro hnone
      rw [h.absent (bodyOf?_eq_none.mpr hnone)]

end Blocks

/-- A selection list is of the grammar if its segments are not empty. -/
theorem exists_selectBody {text : List Char} {body : List Token} :
    (∃ p, SelectBody text body p) ↔
      ∃ segments, CommaSegments 0 body segments ∧ ∀ segment ∈ segments, segment ≠ [] := by
  constructor
  · rintro ⟨_, hstar | ⟨hsegments, hfull, -⟩⟩
    · rename_i t
      have ht : t.kind ≠ .comma := by
        rw [hstar]
        decide
      refine ⟨[[t]], commaSegments_singleton ht, ?_⟩
      intro segment hsegment
      rw [List.mem_singleton.mp hsegment]
      exact List.cons_ne_nil _ _
    · exact ⟨_, hsegments, hfull⟩
  · rintro ⟨segments, hsegments, hfull⟩
    by_cases hstar : ∃ t, body = [t] ∧ t.kind = .star
    · obtain ⟨t, rfl, ht⟩ := hstar
      exact ⟨_, .everything ht⟩
    · exact ⟨_, .listed hsegments hfull fun t hbody ht => hstar ⟨t, hbody, ht⟩⟩

theorem kinds_eq_star {body : List Token} :
    (body.map Token.kind == [.star]) = true ↔ ∃ t, body = [t] ∧ t.kind = .star := by
  rw [beq_iff_eq]
  match body with
  | [] => simp
  | [t] => simp
  | _ :: _ :: _ => simp

/-- Segments that are not empty all become entries, and leave nothing to be said. -/
theorem filter_segments {segments : List (List Token)} (h : ∀ segment ∈ segments, segment ≠ []) :
    (segments.filter fun segment => !segment.isEmpty) = segments ∧
      (segments.filter fun segment => segment.isEmpty) = [] := by
  constructor
  · refine List.filter_eq_self.mpr fun segment hsegment => ?_
    rw [List.isEmpty_eq_false_iff.mpr (h segment hsegment)]
    rfl
  · refine List.filter_eq_nil_iff.mpr fun segment hsegment => ?_
    rw [List.isEmpty_eq_false_iff.mpr (h segment hsegment)]
    exact Bool.false_ne_true

/-- With a source, a selection list is read in silence exactly if it is of the grammar. -/
theorem readProjection_reads {text : List Char} {blocks : List Block} {body : List Token}
    (hsource : (bodyOf? blocks .source).isNone = false)
    (hselect : bodyOf? blocks .select = some body) :
    Reads (SelectBody text) id body (readProjection text blocks) := by
  unfold readProjection
  rw [hsource, hselect, if_neg Bool.false_ne_true, Option.getD_some]
  dsimp only
  constructor
  · intro hquiet
    by_cases hstar : (body.map Token.kind == [.star]) = true
    · obtain ⟨t, rfl, ht⟩ := kinds_eq_star.mp hstar
      exact ⟨_, .everything ht⟩
    · cases hempty : body.isEmpty with
      | true =>
          rw [hempty] at hquiet
          exact absurd hquiet (List.cons_ne_nil _ _)
      | false =>
          rw [hempty, if_neg Bool.false_ne_true, if_neg hstar] at hquiet
          have hfull := List.filter_eq_nil_iff.mp (List.map_eq_nil_iff.mp hquiet)
          refine exists_selectBody.mpr ⟨_, commaSegments_splitAtCommas 0 body, ?_⟩
          intro segment hsegment hnil
          exact hfull segment hsegment (List.isEmpty_iff.mpr hnil)
  · intro p hp
    cases hp with
    | everything hstar =>
        rw [if_neg (by simp), if_pos (kinds_eq_star.mpr ⟨_, rfl, hstar⟩)]
        rfl
    | @listed _ segments hsegments hfull hentries =>
        obtain ⟨hall, hnone⟩ := filter_segments hfull
        have hnotEmpty : body.isEmpty = false := by
          rw [List.isEmpty_eq_false_iff]
          rintro rfl
          rw [← commaSegments_iff.mp hsegments] at hfull
          exact hfull [] List.mem_cons_self rfl
        have hsome : segments ≠ [] := by
          rintro rfl
          nomatch hsegments
        have hnotStar : ¬ (body.map Token.kind == [.star]) = true := by
          intro hstar
          obtain ⟨t, ht, hkind⟩ := kinds_eq_star.mp hstar
          exact hentries t ht hkind
        rw [hnotEmpty, if_neg Bool.false_ne_true, if_neg hnotStar, commaSegments_iff.mp hsegments,
          hall, hnone, if_neg (by simpa using hsome)]
        rfl

section Hints

theorem expectsName_concat (before : List Token) (t : Token) :
    expectsName (before ++ [t]) = (t.kind == .comma) := by
  rw [expectsName, List.getLast?_concat]

theorem expectsName_append (before : List Token) {tokens : List Token} (h : tokens ≠ []) :
    expectsName (before ++ tokens) = expectsName tokens := by
  rw [expectsName, expectsName, List.getLast?_append_of_ne_nil _ h]

/-- Behind segments that are not empty no name is expected outside all brackets. -/
theorem expectsName_of_commaSegments {depth : Nat} {tokens : List Token}
    {segments : List (List Token)} (h : CommaSegments depth tokens segments)
    (hfull : ∀ segment ∈ segments, segment ≠ []) (hclosed : depthBehind depth tokens = 0) :
    expectsName tokens = false := by
  induction h with
  | @one depth segment hplain =>
      rcases List.eq_nil_or_concat segment with hnil | ⟨before, t, rfl⟩
      · exact absurd hnil (hfull segment List.mem_cons_self)
      · rw [List.concat_eq_append] at *
        rw [expectsName_concat]
        refine beq_false_of_ne fun hcomma => hplain before t [] rfl hcomma ?_
        rwa [depthBehind_append, depthBehind_comma _ hcomma] at hclosed
  | @cons depth segment rest comma segments hplain hdepth hcomma hrest ih =>
      have hlater : ∀ other ∈ segments, other ≠ [] := fun other hother =>
        hfull other (List.mem_cons_of_mem _ hother)
      have hne : rest ≠ [] := by
        rintro rfl
        rw [← commaSegments_iff.mp hrest] at hlater
        exact hlater [] List.mem_cons_self rfl
      rw [List.append_cons, expectsName_append _ hne]
      refine ih hlater ?_
      rwa [depthBehind_append, hdepth, depthBehind_comma 0 hcomma] at hclosed

theorem not_comma_of_isName {t : Token} (h : t.isName = true) : (t.kind == .comma) = false := by
  rcases Bool.or_eq_true_iff.mp h with hkind | hkind <;> rw [beq_iff_eq.mp hkind] <;> rfl

theorem not_comma_of_isQuoted {t : Token} (h : t.isQuoted = true) : (t.kind == .comma) = false := by
  rcases Bool.or_eq_true_iff.mp h with hkind | hkind <;> rw [beq_iff_eq.mp hkind] <;> rfl

theorem not_comma_of_literal {t : Token} (h : LiteralToken t) : (t.kind == .comma) = false := by
  rcases h with hkind | hkind | hkind | hkind <;> rw [hkind] <;> rfl

theorem not_comma_of_isWord {t : Token} {word : String} (h : t.isWord word = true) :
    (t.kind == .comma) = false := by
  have hkind : t.kind = .word := beq_iff_eq.mp (isWord_iff.mp h).1
  rw [hkind]
  rfl

/-- Behind grouping columns no name is expected. -/
theorem expectsName_of_groupingBody {body : List Token} {names : List String}
    (h : GroupingBody body names) : expectsName body = false := by
  induction h with
  | one hname => exact not_comma_of_isName hname
  | @cons t comma rest names hname hcomma hrest ih =>
      have hne : rest ≠ [] := by cases hrest <;> exact List.cons_ne_nil _ _
      exact (expectsName_append [t, comma] hne).trans ih

/-- Behind a body of its clause no name is expected outside all brackets. -/
theorem ClauseKind.Accepts.expectsName_eq_false {kind : ClauseKind} {body : List Token}
    (h : kind.Accepts body) (hclosed : depthBehind 0 body = 0) : expectsName body = false := by
  cases kind with
  | select =>
      obtain ⟨segments, hsegments, hfull⟩ := h
      exact expectsName_of_commaSegments hsegments hfull hclosed
  | source =>
      obtain ⟨_, ⟨hname⟩⟩ := h
      exact not_comma_of_isName hname
  | condition =>
      obtain ⟨_, hcondition⟩ := h
      cases hcondition with
      | equals _ _ _ hliteral => exact not_comma_of_literal hliteral
      | like _ _ hquoted => exact not_comma_of_isQuoted hquoted
  | grouping =>
      obtain ⟨_, hnames⟩ := h
      exact expectsName_of_groupingBody hnames
  | order =>
      obtain ⟨_, hkey⟩ := h
      cases hkey with
      | plain hname => exact not_comma_of_isName hname
      | ascending _ hword => exact not_comma_of_isWord hword
      | descending _ hword => exact not_comma_of_isWord hword
  | limit =>
      obtain ⟨_, ⟨hkind, -⟩⟩ := h
      exact not_comma_of_literal (.inr (.inr (.inr hkind)))

/-- Nothing is to be said about blocks behind others exactly if their kinds are new and no
name is expected before any of them. -/
theorem blockWarnings_eq_nil {seen : List ClauseKind} {before : List Token} {blocks : List Block} :
    blockWarnings seen before blocks = [] ↔
      (blocks.map Block.kind).Nodup ∧ (∀ b ∈ blocks, b.kind ∉ seen) ∧
        ∀ body ∈ (before :: blocks.map Block.body).dropLast, expectsName body = false := by
  induction blocks generalizing seen before with
  | nil => simp [blockWarnings]
  | cons b rest ih =>
      rw [blockWarnings, List.append_eq_nil_iff, List.append_eq_nil_iff, ih, List.map_cons,
        List.map_cons, List.nodup_cons, List.dropLast_cons_cons]
      have hname : (if expectsName before then
          [Warning.keywordAsName b.keyword.upper b.keyword.value] else []) = [] ↔
            expectsName before = false := by
        cases expectsName before <;> simp
      have hnew : (if seen.contains b.kind then [Warning.repeatedClause b.kind] else []) = [] ↔
          b.kind ∉ seen := by
        rw [← List.contains_iff_mem, ite_eq_right_iff]
        simp
      have hkinds : (∀ other ∈ rest, other.kind ∉ b.kind :: seen) ↔
          b.kind ∉ rest.map Block.kind ∧ ∀ other ∈ rest, other.kind ∉ seen := by
        simp only [List.mem_cons, not_or, List.mem_map, not_exists, not_and]
        exact forall₂_and
      rw [hname, hnew, hkinds, List.forall_mem_cons, List.forall_mem_cons]
      tauto

theorem cutWarnings_eq_nil {blocks : List Block} :
    cutWarnings blocks = [] ↔
      (blocks.map Block.kind).Nodup ∧
        ∀ body ∈ (blocks.map Block.body).dropLast, expectsName body = false := by
  cases blocks with
  | nil => simp [cutWarnings]
  | cons b rest =>
      rw [cutWarnings, blockWarnings_eq_nil, List.map_cons, List.map_cons, List.nodup_cons]
      have hnew : (∀ other ∈ rest, other.kind ∉ [b.kind]) ↔ b.kind ∉ rest.map Block.kind := by
        simp only [List.mem_singleton, List.mem_map, not_exists, not_and]
      rw [hnew, and_left_comm, and_assoc]

/-- Every block but the last ends outside all brackets. -/
theorem Cut.closed {tokens : List Token} {blocks : List Block} (h : Cut tokens blocks) :
    ∀ body ∈ (blocks.map Block.body).dropLast, depthBehind 0 body = 0 := by
  induction h with
  | nil => exact fun _ hbody => absurd hbody List.not_mem_nil
  | @cons kind keyword more body rest blocks hkeywords hbody hclosed hrest ih =>
      cases hrest with
      | nil => exact fun _ hbody => absurd hbody List.not_mem_nil
      | cons _ _ _ _ =>
          intro other hother
          rw [List.map_cons, List.map_cons, List.dropLast_cons_cons] at hother
          rcases List.mem_cons.mp hother with rfl | hlater
          · exact hclosed.resolve_left (List.cons_ne_nil _ _)
          · exact ih other hlater

end Hints

section Reading

variable {text : List Char} {blocks : List Block}

/-- What blocks are read as, with the limit as far as it could be read. -/
def queryWith (text : List Char) (blocks : List Block) (limit : Warned (Option Nat)) : Query :=
  let projection := readProjection text blocks
  let source := readIfPresent none (readSource text) (bodyOf? blocks .source)
  let condition := readIfPresent none (readCondition text) (bodyOf? blocks .condition)
  let grouping := readIfPresent [] readGrouping (bodyOf? blocks .grouping)
  let order := readIfPresent none (readOrder text) (bodyOf? blocks .order)
  { text := String.ofList text, projection := projection.1, source := source.1
    condition := condition.1, grouping := grouping.1, order := order.1, limit := limit.1
    warnings := cutWarnings blocks ++ projection.2 ++ source.2 ++ condition.2 ++ grouping.2 ++
      order.2 ++ limit.2 }

theorem queryOfBlocks_eq_ok {q : Query} (h : queryOfBlocks text blocks = .ok q) :
    ∃ limit, ReadClause blocks .limit LimitBody none some limit ∧
      queryWith text blocks limit = q := by
  unfold queryOfBlocks at h
  cases hlimit : bodyOf? blocks .limit with
  | none =>
      rw [hlimit] at h
      obtain ⟨limit, hmissing, hq⟩ := bind_eq_ok.mp h
      obtain rfl := pure_eq_ok.mp hmissing
      refine ⟨(none, []), ⟨?_, fun _ => rfl⟩, pure_eq_ok.mp hq⟩
      intro body hbody
      exact absurd (hlimit.symm.trans hbody).symm (Option.some_ne_none body)
  | some body =>
      rw [hlimit] at h
      obtain ⟨limit, hread, hq⟩ := bind_eq_ok.mp h
      refine ⟨limit, ⟨?_, ?_⟩, pure_eq_ok.mp hq⟩
      · intro body' hbody'
        obtain rfl := Option.some.inj (hlimit.symm.trans hbody')
        exact readLimit_reads text body hread
      · intro hnone
        exact absurd (hlimit.symm.trans hnone) (Option.some_ne_none body)

/-- Nothing is to be said about a query exactly if there is nothing about its cut and about
each of its clauses. -/
theorem queryWith_warnings_eq_nil {limit : Warned (Option Nat)} :
    (queryWith text blocks limit).warnings = [] ↔
      cutWarnings blocks = [] ∧ (readProjection text blocks).2 = [] ∧
        (readIfPresent none (readSource text) (bodyOf? blocks .source)).2 = [] ∧
        (readIfPresent none (readCondition text) (bodyOf? blocks .condition)).2 = [] ∧
        (readIfPresent [] readGrouping (bodyOf? blocks .grouping)).2 = [] ∧
        (readIfPresent none (readOrder text) (bodyOf? blocks .order)).2 = [] ∧
        limit.2 = [] := by
  simp only [queryWith, List.append_eq_nil_iff, and_assoc]

/-- With a source, the selection list is read from the first block. -/
theorem readProjection_readClause (text : List Char) (hselect : ∃ b ∈ blocks, b.kind = .select)
    (hsource : ∃ b ∈ blocks, b.kind = .source) :
    ReadClause blocks .select (SelectBody text) .everything id (readProjection text blocks) := by
  constructor
  · intro body hbody
    refine readProjection_reads ?_ hbody
    rw [Option.isNone_eq_false_iff, Option.isSome_iff_ne_none]
    intro hnone
    obtain ⟨b, hb, hkind⟩ := hsource
    exact bodyOf?_eq_none.mp hnone b hb hkind
  · intro hnone
    obtain ⟨b, hb, hkind⟩ := hselect
    exact absurd hkind (bodyOf?_eq_none.mp hnone b hb)

/-- Blocks that are read without a warning are of the grammar. -/
theorem grammatical_of_silent {limit : Warned (Option Nat)}
    (hfirst : ∃ b rest, blocks = b :: rest ∧ b.kind = .select)
    (hlimit : ReadClause blocks .limit LimitBody none some limit)
    (hsilent : (queryWith text blocks limit).warnings = []) : Grammatical blocks := by
  obtain ⟨hcut, hprojection, hsource, hcondition, hgrouping, horder, hquiet⟩ :=
    queryWith_warnings_eq_nil.mp hsilent
  obtain ⟨honce, -⟩ := cutWarnings_eq_nil.mp hcut
  have hselect : ∃ b ∈ blocks, b.kind = .select := by
    obtain ⟨b, rest, rfl, hkind⟩ := hfirst
    exact ⟨b, List.mem_cons_self, hkind⟩
  have hfrom : ∃ b ∈ blocks, b.kind = .source := by
    by_contra hno
    have hnone : bodyOf? blocks .source = none :=
      bodyOf?_eq_none.mpr fun b hb hkind => hno ⟨b, hb, hkind⟩
    rw [readProjection, hnone] at hprojection
    exact List.cons_ne_nil _ _ hprojection
  refine ⟨hfirst, honce, hfrom, ?_⟩
  intro b hb
  obtain ⟨kind, keyword, body⟩ := b
  cases kind with
  | select =>
      exact exists_selectBody.mp
        ((readProjection_readClause text hselect hfrom).exists_body honce hprojection _ hb rfl)
  | source =>
      exact (readIfPresent_readClause (readSource_reads text)).exists_body honce hsource _ hb rfl
  | condition =>
      exact (readIfPresent_readClause (readCondition_reads text)).exists_body honce hcondition _
        hb rfl
  | grouping =>
      exact (readIfPresent_readClause readGrouping_reads).exists_body honce hgrouping _ hb rfl
  | order =>
      exact (readIfPresent_readClause (readOrder_reads text)).exists_body honce horder _ hb rfl
  | limit => exact hlimit.exists_body honce hquiet _ hb rfl

/-- Blocks of the grammar are read without a warning, as what their tokens spell. -/
theorem silent_of_grammatical {limit : Warned (Option Nat)} {tokens : List Token}
    (hcut : Cut tokens blocks) (hblocks : Grammatical blocks)
    (hlimit : ReadClause blocks .limit LimitBody none some limit) :
    (queryWith text blocks limit).warnings = [] ∧
      Spells text blocks (queryWith text blocks limit) := by
  have honce := hblocks.once
  have hselect : ∃ b ∈ blocks, b.kind = .select := by
    obtain ⟨b, rest, rfl, hkind⟩ := hblocks.selectFirst
    exact ⟨b, List.mem_cons_self, hkind⟩
  have haccepts (kind : ClauseKind) (b : Block) (hb : b ∈ blocks) (hkind : b.kind = kind) :
      kind.Accepts b.body := hkind ▸ hblocks.accepted b hb
  have hcutWarnings : cutWarnings blocks = [] := by
    refine cutWarnings_eq_nil.mpr ⟨honce, ?_⟩
    intro body hbody
    obtain ⟨b, hb, rfl⟩ := List.mem_map.mp (List.mem_of_mem_dropLast hbody)
    exact (haccepts _ b hb rfl).expectsName_eq_false (hcut.closed b.body hbody)
  obtain ⟨hprojection, hprojectionSpells⟩ :=
    (readProjection_readClause text hselect hblocks.hasSource).spells honce
      fun b hb hkind => exists_selectBody.mpr (haccepts .select b hb hkind)
  obtain ⟨hsource, hsourceSpells⟩ :=
    (readIfPresent_readClause (readSource_reads text)).spells honce (haccepts .source)
  obtain ⟨hcondition, hconditionSpells⟩ :=
    (readIfPresent_readClause (readCondition_reads text)).spells honce (haccepts .condition)
  obtain ⟨hgrouping, hgroupingSpells⟩ :=
    (readIfPresent_readClause readGrouping_reads).spells honce (haccepts .grouping)
  obtain ⟨horder, horderSpells⟩ :=
    (readIfPresent_readClause (readOrder_reads text)).spells honce (haccepts .order)
  obtain ⟨hquiet, hlimitSpells⟩ := hlimit.spells honce (haccepts .limit)
  constructor
  · exact queryWith_warnings_eq_nil.mpr
      ⟨hcutWarnings, hprojection, hsource, hcondition, hgrouping, horder, hquiet⟩
  · exact ⟨hprojectionSpells, hsourceSpells, hconditionSpells, hgroupingSpells, horderSpells,
      hlimitSpells⟩

end Reading

/-- A text that is read as a query starts with a selection, and is read from the blocks of its
tokens. -/
theorem parse_eq_ok {text : String} {q : Query} (h : Query.parse text = .ok q) :
    ∃ first rest, queryTokens text = first :: rest ∧ first.isWord "SELECT" = true ∧
      queryOfBlocks (Text.strip text).toList (cut (queryTokens text)) = .ok q := by
  unfold Query.parse at h
  dsimp only at h
  split at h
  · exact absurd h (by simp)
  · split at h
    · exact absurd h (by simp)
    · rename_i first rest htokens
      split at h
      · rename_i hselect
        exact ⟨first, rest, htokens, hselect, h⟩
      · exact absurd h (by simp)

/-- A text whose tokens start with a selection is read from their blocks. -/
theorem parse_of_queryTokens {text : String} {first : Token} {rest : List Token}
    (htokens : queryTokens text = first :: rest) (hselect : first.isWord "SELECT" = true) :
    Query.parse text = queryOfBlocks (Text.strip text).toList (cut (queryTokens text)) := by
  have hne : (Text.strip text).isEmpty = false := by
    rw [Bool.eq_false_iff]
    intro hempty
    rw [queryTokens, String.isEmpty_iff.mp hempty] at htokens
    exact absurd htokens (List.cons_ne_nil _ _).symm
  unfold Query.parse
  dsimp only
  rw [hne, if_neg Bool.false_ne_true]
  rw [show dropTerminators (tokenize (Text.strip text)) = first :: rest from htokens, htokens]
  exact if_pos hselect

/-- Tokens that start with a selection are cut into blocks that do. -/
theorem cut_select {first : Token} (rest : List Token) (h : first.isWord "SELECT" = true) :
    ∃ b blocks, cut (first :: rest) = b :: blocks ∧ b.kind = .select := by
  have hstart : clauseStart? first rest.head? = some (.select, false) := by
    unfold clauseStart?
    exact if_pos h
  rw [cut, cutFrom, if_pos BEq.rfl, hstart]
  exact ⟨_, _, rfl, rfl⟩

/-- A text that is read as a query is read without a warning exactly if its tokens are cut into
blocks of the grammar. The cut is unique, and the parts of the query are then those that the
tokens of the blocks spell. -/
theorem parse_silent_iff {text : String} {q : Query} (h : Query.parse text = .ok q) :
    (q.warnings = [] ↔ ∃ blocks, Cut (queryTokens text) blocks ∧ Grammatical blocks) ∧
      ∀ blocks, Cut (queryTokens text) blocks → Grammatical blocks →
        Spells (Text.strip text).toList blocks q := by
  obtain ⟨first, rest, htokens, hselect, hread⟩ := parse_eq_ok h
  have hstarts : StartsClause (queryTokens text) :=
    ⟨.select, [first], rest, htokens, .cons hselect .nil⟩
  have hfirst : ∃ b blocks, cut (queryTokens text) = b :: blocks ∧ b.kind = .select := by
    rw [htokens]
    exact cut_select rest hselect
  obtain ⟨limit, hlimit, rfl⟩ := queryOfBlocks_eq_ok hread
  have hcut : Cut (queryTokens text) (cut (queryTokens text)) := (cut_iff hstarts).mpr rfl
  refine ⟨⟨?_, ?_⟩, ?_⟩
  · intro hsilent
    exact ⟨_, hcut, grammatical_of_silent hfirst hlimit hsilent⟩
  · rintro ⟨blocks, hblocks, hgrammatical⟩
    obtain rfl := (cut_iff hstarts).mp hblocks
    exact (silent_of_grammatical hcut hgrammatical hlimit).1
  · intro blocks hblocks hgrammatical
    obtain rfl := (cut_iff hstarts).mp hblocks
    exact (silent_of_grammatical hcut hgrammatical hlimit).2

/-- A text whose clauses are all of the grammar, with a semicolon at its end, is read without a
warning as what it spells. -/
theorem parse_silent_iff_like :
    ∃ q, Query.parse "select a, count(*) n from t where b like 'x%' group by a limit 2;" = .ok q ∧
      q.source = some "t" ∧ q.grouping = ["a"] ∧ q.limit = some 2 ∧
      ∃ blocks,
        Cut (queryTokens "select a, count(*) n from t where b like 'x%' group by a limit 2;")
          blocks ∧
        Grammatical blocks ∧
        Spells (Text.strip
          "select a, count(*) n from t where b like 'x%' group by a limit 2;").toList blocks q := by
  have hparts : (Query.parse
      "select a, count(*) n from t where b like 'x%' group by a limit 2;").toOption.map
        (fun q => (q.warnings, q.source, q.grouping, q.limit)) =
      some ([], some "t", ["a"], some 2) := by
    decide +kernel
  obtain ⟨q, hread, hvalues⟩ := Option.map_eq_some_iff.mp hparts
  have hparse := toOption_eq_some.mp hread
  obtain ⟨hsilent, hsource, hgrouping, hlimit⟩ : q.warnings = [] ∧ q.source = some "t" ∧
      q.grouping = ["a"] ∧ q.limit = some 2 := by
    simpa using hvalues
  obtain ⟨blocks, hcut, hblocks⟩ := (parse_silent_iff hparse).1.mp hsilent
  exact ⟨q, hparse, hsource, hgrouping, hlimit, blocks, hcut, hblocks,
    (parse_silent_iff hparse).2 blocks hcut hblocks⟩

end JsonQuery
