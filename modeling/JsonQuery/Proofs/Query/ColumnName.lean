import JsonQuery.Proofs.Query.Aggregation
import JsonQuery.Proofs.Query.Selection
import JsonQuery.Proofs.Query.Silent
import JsonQuery.Proofs.Sql.Quoted
import Mathlib

/-!
Double-quoted names. Such a name is one token whose value is the text between the quotes, and a
query refers by it to the column of that name wherever it takes a column: in an entry of the
selection list, as the argument of a function, in the condition, among the grouping columns and
as the sort key.
-/

namespace JsonQuery

open Outcome Sql

/-- The places of a query that take a column. -/
inductive ColumnPlace where
  | entry
  | argument (f : AggregateFunction)
  | condition
  | grouping
  | order

/-- A token stands at a place of a query that takes a column. -/
inductive TakesColumn (blocks : List Block) (t : Token) : ColumnPlace → Prop
  | entry {body : List Token} {segments : List (List Token)}
      (hselect : bodyOf? blocks .select = some body)
      (hsource : (bodyOf? blocks .source).isSome = true)
      (hsegments : CommaSegments 0 body segments) (hentry : [t] ∈ segments) :
      TakesColumn blocks t .entry
  | argument {body : List Token} {segments : List (List Token)} {f : AggregateFunction}
      {name opening closing : Token} {behind : List Token} {label : String}
      (hselect : bodyOf? blocks .select = some body)
      (hsource : (bodyOf? blocks .source).isSome = true)
      (hsegments : CommaSegments 0 body segments)
      (hentry : name :: opening :: t :: closing :: behind ∈ segments)
      (hname : name.isBare = true) (hf : AggregateFunction.ofName? name.upper = some f)
      (hopening : opening.kind = .leftParen) (hclosing : closing.kind = .rightParen)
      (hlabel : alias? behind = some label) : TakesColumn blocks t (.argument f)
  | condition {operator literal : Token} {c : Condition}
      (hcondition : bodyOf? blocks .condition = some [t, operator, literal])
      (hbody : ConditionBody [t, operator, literal] c) : TakesColumn blocks t .condition
  | grouping {body : List Token} {names : List String}
      (hgrouping : bodyOf? blocks .grouping = some body) (hbody : GroupingBody body names)
      (ht : t ∈ body) : TakesColumn blocks t .grouping
  | order {behind : List Token} (horder : bodyOf? blocks .order = some (t :: behind)) :
      TakesColumn blocks t .order

/-- What a function makes of the values of a column: how many there are, or what it makes of
the numbers among them. -/
def AggregateFunction.over (f : AggregateFunction) (values : List Value) : Except Fault Value :=
  match f with
  | .count => return Value.ofInt (values.countP fun v => !v.isNull)
  | f => (values.filterMap Value.number?).foldlM Tally.add Tally.empty >>= f.result

/-- The groups a query makes. -/
def Query.groups (q : Query) (rows : List Record) : List (List Record) :=
  rowGroups q.grouping (rows.filter (satisfies q.condition))

/-- What it means that a query refers to a column at a place. -/
def ColumnPlace.Refers (column : String) (q : Query) : ColumnPlace → Prop
  | .entry => ∃ before item after, q.projection = .listed (before ++ item :: after) ∧
      -- without groups each row shows what it has in the column
      (∀ grouping rows r, (q.isAggregate && grouping) = false → q.run grouping rows = .ok r →
        ∃ arranged, Arranges q.condition q.order rows arranged ∧
          List.Forall₂ (fun shown row : Record => shown.get? column = row.get? column) r.rows
            (limitRows q.limit arranged)) ∧
      -- with groups each group shows what its first row has
      ∀ rows r, q.isAggregate = true → q.run true rows = .ok r →
        (∀ later ∈ after, later.outputName ≠ column) → ∀ shown ∈ r.rows,
        ∃ group ∈ q.groups rows, ∀ v, (group.head?.bind fun row => row.get? column) = some v →
          shown.get? column = some v
  | .argument f => ∃ before item after, q.projection = .listed (before ++ item :: after) ∧
      ∀ rows r, q.run true rows = .ok r →
        (∀ later ∈ after, later.outputName ≠ item.outputName) → ∀ shown ∈ r.rows,
        ∃ group ∈ q.groups rows, ∃ v, f.over (group.map fun row => row.get column) = .ok v ∧
          shown.get? item.outputName = some v
  | .condition => ∃ c, q.condition = some c ∧ c.column = column ∧
      ∀ a b : Record, a.get column = b.get column → c.holds a = c.holds b
  | .grouping => column ∈ q.grouping ∧ ∀ rows, ∀ group ∈ q.groups rows,
      group.Pairwise fun a b => (a.get column).alike (b.get column) = true
  | .order => ∃ direction, q.order = some ⟨column, direction⟩

/-- The names that are taken as those of columns there: an entry without a name is shown by its
text, and a function of the star is one of whole rows. -/
def ColumnPlace.Admits (column : String) : ColumnPlace → Prop
  | .entry => column ≠ ""
  | .argument _ => column ≠ "*"
  | _ => True

section Entries

variable {blocks : List Block} {body segment : List Token} {segments : List (List Token)}

/-- A segment of the selection list that is no star alone is an entry. -/
theorem readProjection_entry (text : List Char)
    (hselect : bodyOf? blocks .select = some body)
    (hsource : (bodyOf? blocks .source).isSome = true) (hsegments : CommaSegments 0 body segments)
    (hsegment : segment ∈ segments) (hne : segment ≠ [])
    (hstar : ∀ t, segment = [t] → t.kind ≠ .star) :
    ∃ before after, (readProjection text blocks).1 =
      .listed (before ++ ⟨sourceText text segment, itemShape segment⟩ :: after) := by
  have hsplit := commaSegments_iff.mp hsegments
  have hbody : body.isEmpty = false := by
    cases body with
    | nil =>
        rw [← hsplit, splitAtCommas, List.mem_singleton] at hsegment
        exact absurd hsegment hne
    | cons t body => rfl
  have hnotStar : ¬ (body.map Token.kind == [.star]) = true := by
    intro hkinds
    obtain ⟨t, rfl, ht⟩ := kinds_eq_star.mp hkinds
    have hcomma : t.kind ≠ .comma := by
      rw [ht]
      decide
    rw [← hsplit, commaSegments_iff.mp (commaSegments_singleton hcomma), List.mem_singleton]
      at hsegment
    exact hstar t hsegment ht
  have hmem : segment ∈ segments.filter fun segment => !segment.isEmpty := by
    refine List.mem_filter.mpr ⟨hsegment, ?_⟩
    simpa using hne
  obtain ⟨before, after, hparts⟩ := List.append_of_mem hmem
  have hsome : (bodyOf? blocks .source).isNone = false := by
    simpa using hsource
  refine ⟨before.map fun segment => ⟨sourceText text segment, itemShape segment⟩,
    after.map fun segment => ⟨sourceText text segment, itemShape segment⟩, ?_⟩
  rw [readProjection, hsome, hselect, if_neg Bool.false_ne_true, Option.getD_some]
  dsimp only
  rw [hbody, if_neg Bool.false_ne_true, if_neg hnotStar, hsplit, hparts]
  simp

variable {t : Token}

theorem itemShape_name (ht : t.kind = .quotedName) : itemShape [t] = .column t.value none := by
  simp [itemShape, Token.isBare, Token.isName, ht, alias?, givenName]

/-- A call with a name is an entry that applies its function to the column, unless the name is
the star. -/
theorem itemShape_call {f : AggregateFunction} {name opening closing : Token}
    {behind : List Token} {label : String} (ht : t.kind = .quotedName) (hstar : t.value ≠ "*")
    (hname : name.isBare = true) (hf : AggregateFunction.ofName? name.upper = some f)
    (hopening : opening.kind = .leftParen) (hclosing : closing.kind = .rightParen)
    (hlabel : alias? behind = some label) :
    itemShape (name :: opening :: t :: closing :: behind) =
      .aggregate f (.column t.value) (givenName label) := by
  simp [itemShape, aggregateShape, hname, hopening, hf, hclosing, Token.isName, ht, hlabel,
    Argument.ofName, hstar]

end Entries

section Functions

variable {item : SelectItem} {f : AggregateFunction} {column : String} {label : Option String}

theorem foldlM_gather_count (hitem : item.shape = .aggregate .count (.column column) label)
    (rows : List Record) (t : Tally) :
    rows.foldlM item.gather t = .ok { t with
      count := t.count + (rows.map fun row => row.get column).countP fun v => !v.isNull } := by
  induction rows generalizing t with
  | nil => rfl
  | cons row rows ih =>
      have hgather : item.gather t row =
          .ok { t with count := t.count + if (row.get column).isNull then 0 else 1 } := by
        rw [SelectItem.gather, hitem]
        cases hnull : (row.get column).isNull <;> simp [hnull]
      rw [List.foldlM_cons, hgather, ok_bind, ih, List.map_cons, List.countP_cons]
      cases hnull : (row.get column).isNull with
      | true => simp
      | false =>
          simp only [Bool.not_false, if_true, Bool.false_eq_true, if_false]
          rw [Nat.add_assoc, Nat.add_comm 1]

theorem foldlM_gather_numbers {argument : Argument}
    (hitem : item.shape = .aggregate f argument label) (hf : f ≠ .count) (rows : List Record)
    (t : Tally) :
    rows.foldlM item.gather t =
      ((rows.map fun row => row.get argument.name).filterMap Value.number?).foldlM Tally.add t := by
  induction rows generalizing t with
  | nil => rfl
  | cons row rows ih =>
      have hgather : item.gather t row =
          ((row.get argument.name).number?.map t.add).getD (.ok t) := by
        rw [SelectItem.gather, hitem]
        cases f with
        | count => exact absurd rfl hf
        | sum | mean | least | greatest =>
            dsimp only
            cases (row.get argument.name).number? <;> rfl
      rw [List.foldlM_cons, hgather, List.map_cons]
      cases hnumber : (row.get argument.name).number? with
      | none =>
          rw [List.filterMap_cons_none hnumber]
          exact ih t
      | some n =>
          rw [List.filterMap_cons_some hnumber, List.foldlM_cons]
          exact bind_congr fun t => ih t

/-- What an entry makes of some rows is what its function makes of the values they have in the
column. -/
theorem over_eq_ok (hitem : item.shape = .aggregate f (.column column) label)
    {rows : List Record} {t : Tally} {v : Value} (ht : rows.foldlM item.gather Tally.empty = .ok t)
    (hv : f.result t = .ok v) : f.over (rows.map fun row => row.get column) = .ok v := by
  by_cases hf : f = .count
  · subst hf
    rw [foldlM_gather_count hitem] at ht
    have hcount : t.count = (rows.map fun row => row.get column).countP fun v => !v.isNull := by
      rw [← Except.ok.inj ht]
      exact Nat.zero_add _
    rw [AggregateFunction.over, ← hcount]
    exact hv
  · rw [foldlM_gather_numbers hitem hf, Argument.name] at ht
    have hover : f.over (rows.map fun row => row.get column) =
        (((rows.map fun row => row.get column).filterMap Value.number?).foldlM Tally.add
          Tally.empty >>= f.result) := by
      cases f with
      | count => exact absurd rfl hf
      | sum | mean | least | greatest => rfl
    rw [hover, ht, ok_bind, hv]

end Functions

section Results

variable {q : Query} {rows : List Record} {r : QueryResult}

theorem mem_of_sortRows {order : Option SortKey} {out : List Record} {row : Record}
    (h : sortRows order rows = .ok out) (hrow : row ∈ out) : row ∈ rows := by
  cases order with
  | none =>
      rw [pure_eq_ok.mp h]
      exact hrow
  | some key =>
      obtain ⟨sorted, rfl, hperm⟩ := sortRows_eq_ok h
      rcases List.mem_append.mp hrow with hsorted | hlast
      · exact (List.mem_filter.mp (hperm.mem_iff.mp hsorted)).1
      · exact (List.mem_filter.mp hlast).1

theorem mem_of_limitRows {limit : Option Nat} {row : Record} (h : row ∈ limitRows limit rows) :
    row ∈ rows := by
  cases limit with
  | none => exact h
  | some n => exact List.mem_of_mem_take h

theorem exists_group (haggregate : q.isAggregate = true) (h : q.run true rows = .ok r)
    {shown : Record} (hshown : shown ∈ r.rows) :
    ∃ group ∈ q.groups rows, groupRow q.groupItems group = .ok shown := by
  rw [Query.run] at h
  obtain ⟨selected, hselect, hrest⟩ := bind_eq_ok.mp h
  rw [haggregate] at hrest
  obtain ⟨out, hgroups, hlast⟩ := bind_eq_ok.mp hrest
  obtain ⟨sorted, hsort, hr⟩ := bind_eq_ok.mp hlast
  rw [← pure_eq_ok.mp hr] at hshown
  have hmem : shown ∈ out := mem_of_sortRows hsort (mem_of_limitRows hshown)
  have hall := aggregate_eq_ok.mp hgroups
  rw [selectRows_eq_ok hselect] at hall
  exact exists_of_forall₂ hall hmem

end Results

theorem Grouped.pairwise {columns : List String} {rows : List Record} {groups : List (List Record)}
    (h : Grouped columns rows groups) {group : List Record} (hgroup : group ∈ groups) :
    group.Pairwise fun a b => sameKey columns a b = true := by
  by_cases hself : ∃ row ∈ group, sameKey columns row row = true
  · obtain ⟨row, hrow, hself⟩ := hself
    rw [h.whole group hgroup row hrow hself]
    refine List.pairwise_of_forall_mem_list ?_
    intro a ha b hb
    have hsame := (List.mem_filter.mp ha).2
    exact sameKey_trans (sameKey_symm hsame) (List.mem_filter.mp hb).2
  · cases group with
    | nil => exact .nil
    | cons row later =>
        have hrow : sameKey columns row row = false := by
          rw [Bool.eq_false_iff]
          intro hsame
          exact hself ⟨row, List.mem_cons_self, hsame⟩
        rw [h.alone _ hgroup row List.mem_cons_self hrow]
        exact List.pairwise_singleton _ _

section Places

variable {q : Query} {column : String}

theorem refers_entry {before after : List SelectItem} {item : SelectItem}
    (hprojection : q.projection = .listed (before ++ item :: after))
    (hitem : item.shape = .column column none) (hcolumn : column ≠ "") :
    ColumnPlace.Refers column q .entry := by
  have hne : column.isEmpty = false := by simpa using hcolumn
  have hfunction : item.function? = none := by rw [SelectItem.function?, hitem]
  have halias : item.alias? = none := by rw [SelectItem.alias?, hitem]
  have hname : item.columnOrText = column := by
    simp [SelectItem.columnOrText, SelectItem.column?, hitem, hne]
  have houtput : item.outputName = column := by rw [SelectItem.outputName, halias, hname]
  have hlookup : item.lookupKey = column := by
    rw [SelectItem.lookupKey, halias, hname]
    rfl
  refine ⟨before, item, after, hprojection, ?_, ?_⟩
  · intro grouping rows r hplain hrun
    obtain ⟨selected, arranged, hselect, hsort, rfl⟩ := (run_eq_ok hplain).mp hrun
    have hshows : q.projection.shows column = true := by
      rw [hprojection]
      simp [Projection.shows, hlookup]
    refine ⟨arranged, arranges_of_sorted hselect hsort, ?_⟩
    rw [List.forall₂_map_left_iff, List.forall₂_same]
    intro row _
    rw [Projection.get?_apply, hshows, if_pos rfl]
  · intro rows r haggregate hrun hlast shown hshown
    obtain ⟨group, hgroup, hrow⟩ := exists_group haggregate hrun hshown
    refine ⟨group, hgroup, ?_⟩
    intro v hv
    rw [Query.groupItems, hprojection] at hrow
    rw [← houtput] at hlast
    obtain ⟨t, output, after', -, hshow, hget⟩ := exists_show hlast hrow
    rw [SelectItem.show, hfunction, hname, hv, houtput] at hshow
    rw [← houtput, hget, ← pure_eq_ok.mp hshow, houtput, Record.get?_put, if_pos rfl]

theorem refers_argument {before after : List SelectItem} {item : SelectItem}
    {f : AggregateFunction} {label : Option String}
    (hprojection : q.projection = .listed (before ++ item :: after))
    (hitem : item.shape = .aggregate f (.column column) label) :
    ColumnPlace.Refers column q (.argument f) := by
  have hfunction : item.function? = some f := by rw [SelectItem.function?, hitem]
  have haggregate : q.isAggregate = true := by
    rw [Query.isAggregate, Projection.hasAggregates, hprojection]
    simp [Projection.entries, SelectItem.isAggregate, hfunction]
  refine ⟨before, item, after, hprojection, ?_⟩
  intro rows r hrun hlast shown hshown
  obtain ⟨group, hgroup, hrow⟩ := exists_group haggregate hrun hshown
  rw [Query.groupItems, hprojection] at hrow
  obtain ⟨t, output, after', ht, hshow, hget⟩ := exists_show hlast hrow
  rw [SelectItem.show, hfunction] at hshow
  obtain ⟨v, hv, hput⟩ := bind_eq_ok.mp hshow
  refine ⟨group, hgroup, v, over_eq_ok hitem ht hv, ?_⟩
  rw [hget, ← pure_eq_ok.mp hput, Record.get?_put, if_pos rfl]

theorem holds_congr {c : Condition} {a b : Record} (h : a.get c.column = b.get c.column) :
    c.holds a = c.holds b := by
  rw [Condition.holds, Condition.holds, h]

theorem mem_of_groupingBody {body : List Token} {names : List String} {t : Token}
    (h : GroupingBody body names) (ht : t ∈ body) (hcomma : t.kind ≠ .comma) :
    t.value ∈ names := by
  induction h with
  | one hname =>
      rw [List.mem_singleton.mp ht]
      exact List.mem_cons_self
  | cons hname hsep hrest ih =>
      rcases List.mem_cons.mp ht with rfl | hlater
      · exact List.mem_cons_self
      · rcases List.mem_cons.mp hlater with rfl | hlater
        · exact absurd hsep hcomma
        · exact List.mem_cons_of_mem _ (ih hlater)

theorem refers_grouping (hcolumn : column ∈ q.grouping) :
    ColumnPlace.Refers column q .grouping := by
  refine ⟨hcolumn, ?_⟩
  intro rows group hgroup
  refine ((rowGroups_grouped _ _).pairwise hgroup).imp ?_
  intro a b hsame
  exact sameKey_iff.mp hsame column hcolumn

/-- A quoted name that stands where a column is taken refers to the column of that name. -/
theorem refers_of_takesColumn {text : List Char} {blocks : List Block} {t : Token}
    {place : ColumnPlace} {limit : Warned (Option Nat)} (h : TakesColumn blocks t place)
    (ht : t.kind = .quotedName) (hadmits : place.Admits t.value) :
    place.Refers t.value (queryWith text blocks limit) := by
  have hname : t.isName = true := by
    rw [Token.isName, ht]
    rfl
  have hcomma : t.kind ≠ .comma := by
    rw [ht]
    decide
  cases h with
  | entry hselect hsource hsegments hentry =>
      have hstar : ∀ u, [t] = [u] → u.kind ≠ .star := by
        intro u hu
        rw [← List.singleton_inj.mp hu, ht]
        decide
      obtain ⟨before, after, hprojection⟩ :=
        readProjection_entry text hselect hsource hsegments hentry (List.cons_ne_nil _ _) hstar
      rw [itemShape_name ht] at hprojection
      exact refers_entry hprojection rfl hadmits
  | argument hselect hsource hsegments hentry hname' hf hopening hclosing hlabel =>
      obtain ⟨before, after, hprojection⟩ :=
        readProjection_entry text hselect hsource hsegments hentry (List.cons_ne_nil _ _) (by simp)
      rw [itemShape_call ht hadmits hname' hf hopening hclosing hlabel] at hprojection
      exact refers_argument hprojection rfl
  | @condition operator literal c hcondition hbody =>
      have hread : (queryWith text blocks limit).condition = some c := by
        have hcomplete := (readCondition_reads text _).complete c hbody
        rw [queryWith, hcondition]
        exact congrArg Prod.fst hcomplete
      have hcolumn : c.column = t.value := by cases hbody <;> rfl
      refine ⟨c, hread, hcolumn, ?_⟩
      intro a b hsame
      exact holds_congr (hcolumn ▸ hsame)
  | @grouping body names hgrouping hbody hmem =>
      have hread : (queryWith text blocks limit).grouping = names := by
        have hcomplete := (readGrouping_reads body).complete names hbody
        rw [queryWith, hgrouping]
        exact congrArg Prod.fst hcomplete
      apply refers_grouping
      rw [hread]
      exact mem_of_groupingBody hbody hmem hcomma
  | @order behind horder =>
      refine ⟨(directionOf behind).1, ?_⟩
      rw [queryWith, horder]
      exact congrArg Prod.fst (readOrder_cons text t behind hname)

end Places

end JsonQuery
