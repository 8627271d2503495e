import JsonQuery.Proofs.Query.Written
import Mathlib.Tactic

/-!
What a query consists of that was read from a text made of pieces. The entries of its selection
list are parts of the text, its literal is a word, a number or the text between quotes, and its
limit has no more digits than the text could be read with.
-/

namespace JsonQuery

open Outcome Sql

section Excerpts

variable {ps part : List Piece} {rest : List Char} {tokens : List Token} {start : Nat}

theorem sourceText_of_stands (hps : Placed ps rest) (h : Stands ps 0 part tokens)
    (hpart : Trimmed part) (tail : List Char) :
    sourceText (render ps ++ tail) tokens = String.ofList (render part) := by
  obtain ⟨front, back, rfl, rfl⟩ := h
  have hplaced := (placed_append.mp (placed_append.mp hps).2).1
  rw [Nat.zero_add]
  obtain ⟨first, hfirst, hstart⟩ := hpart.head? (render front).length
  obtain ⟨last, hlast, hstop⟩ := hpart.getLast? (render front).length
  have hslice : ((render (front ++ (part ++ back)) ++ tail).take last.stop).drop first.start =
      render part := by
    rw [hstart, hstop, ← List.length_append, render_append, render_append, ← List.append_assoc,
      List.append_assoc, List.take_left, List.drop_left]
  rw [sourceText, hfirst, hlast]
  dsimp only
  rw [hslice, stripWhere_render hplaced hpart]

end Excerpts

/-- The pieces an entry of a selection list is written with. -/
structure Writes (item : SelectItem) (part : List Piece) : Prop where
  entry : Entry part
  trimmed : Trimmed part
  text : item.text = String.ofList (render part)
  shape : itemShape (place 0 part) = item.shape

section Selections

variable {ps : List Piece} {tail : List Char}

/-- A segment holds no comma and no open bracket, and stands behind closed ones. -/
theorem CommaSegments.exists_part {body : List Token} {segments : List (List Token)}
    (h : CommaSegments 0 body segments) (hclosed : depthBehind 0 body = 0) :
    ∀ segment ∈ segments, ∃ before behind, body = before ++ (segment ++ behind) ∧
      depthBehind 0 before = 0 ∧ NoComma 0 segment ∧ depthBehind 0 segment = 0 := by
  generalize hdepth : 0 = depth at h
  induction h with
  | @one depth segment hplain =>
      subst hdepth
      intro segment' hsegment
      rw [List.mem_singleton.mp hsegment]
      exact ⟨[], [], by simp, rfl, hplain, hclosed⟩
  | @cons depth segment rest comma segments hplain hbehind hcomma hrest ih =>
      subst hdepth
      intro segment' hsegment
      rcases List.mem_cons.mp hsegment with rfl | hlater
      · exact ⟨[], comma :: rest, rfl, rfl, hplain, hbehind⟩
      · have hfront : depthBehind 0 (segment ++ [comma]) = 0 := by
          rw [depthBehind_append, hbehind, depthBehind_comma 0 hcomma]
          rfl
        rw [List.append_cons, depthBehind_append, hfront] at hclosed
        obtain ⟨before, behind, rfl, hbefore, hplain', hclosed'⟩ := ih hclosed rfl segment' hlater
        refine ⟨segment ++ comma :: before, behind, by simp, ?_, hplain', hclosed'⟩
        rw [List.append_cons, depthBehind_append, hfront, hbefore]

/-- A segment of a selection list is written with a part of the text. -/
theorem exists_writes (hplaced : WellPlaced ps tail) (hclosed : Closed ps)
    {before body after : List Token} (htokens : place 0 ps = before ++ (body ++ after))
    (hclause : NoClause 0 body after) (hbody : depthBehind 0 body = 0)
    {segments : List (List Token)} (hsegments : CommaSegments 0 body segments)
    {segment : List Token} (hsegment : segment ∈ segments) (hne : segment ≠ []) :
    ∃ part, Writes ⟨sourceText (render ps ++ tail) segment, itemShape segment⟩ part := by
  obtain ⟨front, behind, rfl, hfront, hplain, hbrackets⟩ :=
    hsegments.exists_part hbody segment hsegment
  have hplace : place 0 ps = (before ++ front) ++ (segment ++ (behind ++ after)) := by
    rw [htokens]
    simp
  obtain ⟨part, hstands, htrimmed⟩ := exists_excerpt hplace hne
  have htext := sourceText_of_stands hplaced.placed hstands htrimmed tail
  obtain ⟨front', back', hps, hpart⟩ := hstands
  rw [hps] at hplaced hclosed
  have hpartPlaced := (wellPlaced_append.mp (wellPlaced_append.mp hplaced).2).1
  have hpartClosed : Closed part := fun quote cs hmem =>
    hclosed quote cs (List.mem_append_right _ (List.mem_append_left _ hmem))
  have hno := hclause.of_append
  rw [hfront] at hno
  refine ⟨part, ⟨⟨?_, htrimmed.last, ?_, ?_⟩, ?_⟩, htrimmed, htext, ?_⟩
  · exact fun rest hrest => hpartPlaced.change hpartClosed hrest
  · intro start
    rw [depthBehind_place, ← depthBehind_place (0 + _), ← hpart]
    exact hbrackets
  · intro start rest hrest
    rw [hpart] at hno
    exact hno.place start hrest
  · intro start
    rw [hpart] at hplain
    exact hplain.place start
  · rw [hpart, itemShape_place (0 + _)]

/-- The entries of a selection list are its segments that are not empty, and there is a
source. -/
theorem readProjection_eq_listed {text : List Char} {blocks : List Block} {items : List SelectItem}
    (h : (readProjection text blocks).1 = .listed items) :
    (bodyOf? blocks .source).isNone = false ∧ items ≠ [] ∧
      items = ((splitAtCommas 0 ((bodyOf? blocks .select).getD [])).filter
        fun segment => !segment.isEmpty).map
          fun segment => ⟨sourceText text segment, itemShape segment⟩ := by
  unfold readProjection at h
  dsimp only at h
  split_ifs at h with hsource hempty hstar hnone
  have hitems := Projection.listed.inj h
  refine ⟨Bool.eq_false_iff.mpr hsource, ?_, hitems.symm⟩
  rintro rfl
  rw [hitems] at hnone
  exact hnone rfl

theorem cut_of_parse {text : String} {q : Query} (hparse : Query.parse text = .ok q) :
    Cut (queryTokens text) (cut (queryTokens text)) := by
  obtain ⟨first, rest, htokens, hselect, -⟩ := parse_eq_ok hparse
  exact (cut_iff ⟨.select, [first], rest, htokens, .cons hselect .nil⟩).mpr rfl

/-- The selection list of a query with entries ends outside all brackets, and no clause starts
in it. -/
theorem exists_selection {text : String} {q : Query} {items : List SelectItem}
    (hparse : Query.parse text = .ok q) (hitems : q.projection = .listed items) :
    ∃ before body after, queryTokens text = before ++ (body ++ after) ∧ NoClause 0 body after ∧
      depthBehind 0 body = 0 ∧ items ≠ [] ∧
      items = ((splitAtCommas 0 body).filter fun segment => !segment.isEmpty).map
        fun segment => ⟨sourceText (Text.strip text).toList segment, itemShape segment⟩ := by
  obtain ⟨first, rest, htokens, hselect, hread⟩ := parse_eq_ok hparse
  obtain ⟨limit, -, rfl⟩ := queryOfBlocks_eq_ok hread
  obtain ⟨hsource, hne, hlist⟩ := readProjection_eq_listed hitems
  have hcut := cut_of_parse hparse
  obtain ⟨b, blocks, hblocks, hb⟩ := cut_select rest hselect
  rw [← htokens] at hblocks
  rw [hblocks] at hcut hsource hlist
  have hbody : bodyOf? (b :: blocks) .select = some b.body := by
    rw [bodyOf?, List.find?_cons, beq_iff_eq.mpr hb]
    rfl
  rw [hbody, Option.getD_some] at hlist
  rw [htokens] at hcut ⊢
  cases hcut with
  | @cons kind _ more body after _ hkeywords hclause hclosed hafter =>
      refine ⟨first :: more, body, after, rfl, hclause, ?_, hne, hlist⟩
      refine hclosed.resolve_left ?_
      rintro rfl
      cases hafter with
      | nil =>
          have hkind : kind = .select := hb
          have hother : bodyOf? [⟨kind, first, body⟩] .source = none := by
            rw [hkind]
            rfl
          rw [hother] at hsource
          exact absurd hsource.symm Bool.false_ne_true

end Selections

section Texts

variable {text : String} {ps : List Piece} {tail : List Char} {q : Query}

/-- The end of a text: semicolons, with blanks behind the first of them or not. -/
structure Terminates (tail : List Char) : Prop where
  all : ∀ c ∈ tail, c = ';' ∨ Text.isBlank c = true
  first : goesOn Text.isBlank tail = false

theorem terminates_nil : Terminates [] := ⟨fun _ hc => absurd hc List.not_mem_nil, rfl⟩

theorem Terminates.goesOn_eq_false (h : Terminates tail) :
    goesOn (fun c => Text.isWord c || Text.isBlank c) tail = false := by
  cases tail with
  | nil => rfl
  | cons c tail =>
      have hblank : Text.isBlank c = false := h.first
      have hc : c = ';' := by simpa [hblank] using h.all c List.mem_cons_self
      rw [hc]
      rfl

theorem tokensAt_terminators (before : Option Char) (start : Nat)
    (h : ∀ c ∈ tail, c = ';' ∨ Text.isBlank c = true) :
    ∀ t ∈ tokensAt before start tail, t.kind = .other ∧ t.value = ";" := by
  induction tail generalizing before start with
  | nil => exact fun _ ht => absurd ht List.not_mem_nil
  | cons c tail ih =>
      obtain ⟨hc, htail⟩ := List.forall_mem_cons.mp h
      intro t ht
      rw [← List.singleton_append] at ht
      rcases hc with rfl | hblank
      · have hclassify : classify before ([';'] ++ tail) = (.punctuation, [';'].length) :=
          classify_punctuation before tail (by decide)
        rw [tokensAt_append (List.cons_ne_nil _ _) hclassify] at ht
        rcases List.mem_append.mp ht with hfirst | hlater
        · rw [List.mem_singleton.mp hfirst]
          exact ⟨rfl, rfl⟩
        · exact ih _ _ htail t hlater
      · have hclassify : classify before ([c] ++ tail) = (.space, [c].length) :=
          classify_blank before tail hblank
        rw [tokensAt_append (List.cons_ne_nil _ _) hclassify] at ht
        exact ih _ _ htail t ht

theorem dropTerminators_eq_self {tokens : List Token} (h : ∀ t ∈ tokens, t.kind ≠ .other) :
    dropTerminators tokens = tokens := by
  rcases List.eq_nil_or_concat tokens with rfl | ⟨front, t, rfl⟩
  · rfl
  · have hlast : t.kind ≠ .other := h t (by simp)
    rw [List.concat_eq_append, dropTerminators_append hlast]
    rfl

theorem dropTerminators_append_terminators {tokens later : List Token}
    (h : ∀ t ∈ later, t.kind = .other ∧ t.value = ";") :
    dropTerminators (tokens ++ later) = dropTerminators tokens := by
  rw [dropTerminators, dropTerminators, List.reverse_append, List.dropWhile_append_of_pos]
  intro t ht
  obtain ⟨hkind, hvalue⟩ := h t (List.mem_reverse.mp ht)
  simp [hkind, hvalue]

theorem queryTokens_of_pieces (htext : (Text.strip text).toList = render ps ++ tail)
    (hplaced : Placed ps tail) (htail : Terminates tail) : queryTokens text = place 0 ps := by
  rw [queryTokens, tokenize_eq, htext, tokensAt_render none 0 hplaced
      (goesOn_extendsPhrase_eq_false htail.goesOn_eq_false),
    dropTerminators_append_terminators (tokensAt_terminators _ _ htail.all)]
  exact dropTerminators_eq_self fun _ => ne_other_of_mem

/-- The entries of a selection list that was read from pieces are written with parts of them. -/
theorem exists_parts (htext : (Text.strip text).toList = render ps ++ tail)
    (hplaced : WellPlaced ps tail) (htail : Terminates tail) (hclosed : Closed ps)
    (hparse : Query.parse text = .ok q) {items : List SelectItem}
    (hitems : q.projection = .listed items) :
    items ≠ [] ∧ ∃ parts, List.Forall₂ Writes items parts := by
  obtain ⟨before, body, after, htokens, hclause, hbody, hne, rfl⟩ :=
    exists_selection hparse hitems
  rw [queryTokens_of_pieces htext hplaced.placed htail] at htokens
  refine ⟨hne, exists_forall₂ ?_⟩
  intro item hitem
  obtain ⟨segment, hsegment, rfl⟩ := List.mem_map.mp hitem
  obtain ⟨hmem, hfull⟩ := List.mem_filter.mp hsegment
  rw [htext]
  exact exists_writes hplaced hclosed htokens hclause hbody (commaSegments_splitAtCommas 0 body)
    hmem (by simpa using hfull)

theorem Cut.exists_body {tokens : List Token} {blocks : List Block} (h : Cut tokens blocks) :
    ∀ b ∈ blocks, ∃ before after, tokens = before ++ (b.body ++ after) ∧
      NoClause 0 b.body after := by
  induction h with
  | nil => exact fun _ hb => absurd hb List.not_mem_nil
  | @cons kind keyword more body rest blocks hkeywords hbody hclosed hrest ih =>
      intro b hb
      rcases List.mem_cons.mp hb with rfl | hlater
      · exact ⟨keyword :: more, rest, rfl, hbody⟩
      · obtain ⟨before, after, rfl, hclause⟩ := ih b hlater
        exact ⟨keyword :: (more ++ (body ++ before)), after, by simp, hclause⟩

/-- A name that can be written without quotes: a lone word that is no keyword by itself. -/
structure PlainName (name : String) : Prop where
  lone : IsLone name.toList
  free : ∀ word ∈ openers, Text.upper name ≠ word

/-- A literal that can be written: in quotes it does not end with a backslash, and without them
it is a name or a number that is compared with. -/
inductive Writable : Condition → Prop
  | quoted {column literal : String} {comparison : Comparison}
      (hlast : literal.toList.getLast? ≠ some '\\') :
      Writable ⟨column, comparison, literal, true⟩
  | name {column literal : String} (hname : PlainName literal) :
      Writable ⟨column, .equals, literal, false⟩
  | number {column literal : String} (hnumeral : IsNumeral literal.toList) :
      Writable ⟨column, .equals, literal, false⟩

theorem readCondition_eq_some {text : List Char} {body : List Token} {c : Condition}
    (h : (readCondition text body).1 = some c) : ConditionBody body c := by
  match body with
  | [] => exact absurd h.symm (Option.some_ne_none c)
  | [column, operator, literal] => exact comparison?_eq_some.mp h
  | [_] | [_, _] | _ :: _ :: _ :: _ :: _ => exact absurd h.symm (Option.some_ne_none c)

theorem depthAfter_of_isName {t : Token} (h : t.isName = true) (depth : Nat) :
    depthAfter depth t = depth := by
  rcases Bool.or_eq_true_iff.mp h with hkind | hkind <;>
    rw [depthAfter, beq_iff_eq.mp hkind]

theorem writable_of_isQuoted {t : Token} {column : String} {comparison : Comparison}
    (hclosed : Closed ps) (ht : ReadOf ps t) (hquoted : t.isQuoted = true) :
    Writable ⟨column, comparison, t.value, true⟩ := by
  cases ht with
  | word | number => exact absurd hquoted Bool.false_ne_true
  | sign hkind =>
      have hother : ∀ kind ∈ [TokenKind.star, .comma, .leftParen, .rightParen, .operator],
          kind ≠ .string ∧ kind ≠ .quotedName := by
        decide
      rcases Bool.or_eq_true_iff.mp hquoted with hstring | hname
      · exact absurd (beq_iff_eq.mp hstring) (hother _ hkind).1
      · exact absurd (beq_iff_eq.mp hname) (hother _ hkind).2
  | quoted _ hmem =>
      refine .quoted ?_
      rw [String.toList_ofList]
      exact hclosed _ _ hmem

theorem writable_of_readOf {t : Token} {column : String} (hclosed : Closed ps) (ht : ReadOf ps t)
    (hliteral : LiteralToken t) (hfree : ∀ word ∈ openers, t.isWord word = false) :
    Writable ⟨column, .equals, t.value, t.isQuoted⟩ := by
  cases hquoted : t.isQuoted with
  | true => exact writable_of_isQuoted hclosed ht hquoted
  | false =>
      cases ht with
      | word hw =>
          refine .name ⟨by rwa [String.toList_ofList], ?_⟩
          intro word hword
          exact beq_eq_false_iff_ne.mp (hfree word hword)
      | number hcs => exact .number (by rwa [String.toList_ofList])
      | sign hkind =>
          rcases hliteral with rfl | rfl | rfl | rfl <;> exact absurd hkind (by decide)
      | quoted hkind =>
          rcases hkind with rfl | rfl <;> exact absurd hquoted.symm Bool.false_ne_true

theorem writable_of_parse (htext : (Text.strip text).toList = render ps ++ tail)
    (hplaced : WellPlaced ps tail) (htail : Terminates tail) (hclosed : Closed ps)
    (hparse : Query.parse text = .ok q) {c : Condition} (hc : q.condition = some c) :
    Writable c := by
  have hcut := cut_of_parse hparse
  obtain ⟨_, _, -, -, hread⟩ := parse_eq_ok hparse
  obtain ⟨limit, -, rfl⟩ := queryOfBlocks_eq_ok hread
  have hcondition : (readIfPresent none (readCondition (Text.strip text).toList)
      (bodyOf? (cut (queryTokens text)) .condition)).1 = some c := hc
  cases hfound : bodyOf? (cut (queryTokens text)) .condition with
  | none =>
      rw [hfound] at hcondition
      exact absurd hcondition.symm (Option.some_ne_none c)
  | some body =>
      rw [hfound] at hcondition
      obtain ⟨b, hb, -, rfl⟩ := exists_of_bodyOf? hfound
      obtain ⟨before, after, hplace, hclause⟩ := hcut.exists_body b hb
      rw [queryTokens_of_pieces htext hplaced.placed htail] at hplace
      have hread (t : Token) (ht : t ∈ b.body) : ReadOf ps t := by
        have hmem : t ∈ place 0 ps := by
          rw [hplace]
          exact List.mem_append_right _ (List.mem_append_left _ ht)
        exact hplaced.readOf hmem
      have hbody := readCondition_eq_some hcondition
      generalize b.body = body at hread hclause hbody
      cases hbody with
      | @equals column operator literal hcolumn hkind hvalue hliteral =>
          have hdepth : depthBehind 0 [column, operator] = 0 := by
            rw [depthBehind, List.foldl_cons, depthAfter_of_isName hcolumn, List.foldl_cons,
              depthAfter, hkind]
            rfl
          have hstart := hclause [column, operator] [literal] rfl (List.cons_ne_nil _ _) hdepth
          have hfree := isWord_eq_false_of_clauseStart? (clauseStart?_eq_none_iff.mpr hstart)
          exact writable_of_readOf hclosed (hread literal (by simp)) hliteral hfree
      | @like column operator literal hcolumn hword hquoted =>
          exact writable_of_isQuoted hclosed (hread literal (by simp)) hquoted

theorem digitValue?_lt {c : Char} {d : Nat} (h : Text.digitValue? c = some d) : d < 10 := by
  unfold Text.digitValue? at h
  split at h
  · split at h
    · rename_i hrange
      simp only [Bool.and_eq_true, decide_eq_true_eq] at hrange
      rw [← Option.some.inj h]
      omega
    · nomatch h
  · obtain ⟨first, hfirst, rfl⟩ := Option.map_eq_some_iff.mp h
    have hrange := List.find?_some hfirst
    simp only [Bool.and_eq_true, decide_eq_true_eq] at hrange
    omega

theorem natOfDigits_lt (cs : List Char) : natOfDigits cs < 10 ^ cs.length := by
  induction cs using List.reverseRecOn with
  | nil => exact Nat.one_pos
  | append_singleton cs c ih =>
      rw [List.length_append, List.length_singleton, Nat.pow_succ]
      cases hd : Text.digitValue? c with
      | none =>
          have hstep : natOfDigits (cs ++ [c]) = natOfDigits cs := by simp [natOfDigits, hd]
          omega
      | some d =>
          have hstep : natOfDigits (cs ++ [c]) = 10 * natOfDigits cs + d := by
            simp [natOfDigits, hd]
          have hdigit := digitValue?_lt hd
          omega

/-- What the limit of some blocks is read as. -/
def limitOf (text : List Char) (blocks : List Block) : Except Fault (Warned (Option Nat)) :=
  match bodyOf? blocks .limit with
  | none => pure (none, [])
  | some tokens => readLimit text tokens

theorem queryOfBlocks_eq (text : List Char) (blocks : List Block) :
    queryOfBlocks text blocks = (limitOf text blocks).map (queryWith text blocks) := by
  unfold queryOfBlocks limitOf
  cases bodyOf? blocks .limit with
  | none => rfl
  | some tokens =>
      dsimp only
      cases readLimit text tokens <;> rfl

theorem readLimit_lt {text : List Char} {tokens : List Token} {limit : Warned (Option Nat)}
    {n : Nat} (h : readLimit text tokens = .ok limit) (hn : limit.1 = some n) :
    n < 10 ^ integerDigitLimit := by
  unfold readLimit at h
  cases tokens with
  | nil =>
      rw [← Except.ok.inj h] at hn
      exact absurd hn.symm (Option.some_ne_none n)
  | cons number rest =>
      dsimp only at h
      split at h
      · rw [← Except.ok.inj h] at hn
        exact absurd hn.symm (Option.some_ne_none n)
      · split at h
        · nomatch h
        · rename_i hshort
          rw [← Except.ok.inj h] at hn
          rw [← Option.some.inj hn]
          refine (natOfDigits_lt _).trans_le (Nat.pow_le_pow_right (by decide) ?_)
          exact Nat.not_lt.mp hshort

theorem limit_lt_of_parse (hparse : Query.parse text = .ok q) {n : Nat} (hn : q.limit = some n) :
    n < 10 ^ integerDigitLimit := by
  obtain ⟨first, rest, -, -, hread⟩ := parse_eq_ok hparse
  rw [queryOfBlocks_eq] at hread
  obtain ⟨limit, hlimit, rfl⟩ := map_eq_ok.mp hread
  have hlimitn : limit.1 = some n := hn
  unfold limitOf at hlimit
  split at hlimit
  · rw [← pure_eq_ok.mp hlimit] at hlimitn
    exact absurd hlimitn.symm (Option.some_ne_none n)
  · exact readLimit_lt hlimit hlimitn

end Texts

end JsonQuery
