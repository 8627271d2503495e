import JsonQuery.Proofs.Query.Refusal
import JsonQuery.Proofs.Sorting.Failing
import JsonQuery.Session.Basic

/-!
What a query can break off with. One that was read fails only where a value has to have a text
to be compared, and with groups where numbers are added or divided; a text that is not read as a
query is refused.
-/

namespace JsonQuery

open Outcome

/-- What the run of a query that was read can break off with. -/
inductive Query.BreaksOff (grouping : Bool) : Fault → Prop
  | noText : BreaksOff grouping .integerTooLongToWrite
  | sum (hgrouping : grouping = true) : BreaksOff grouping .integerExceedsFloat
  | mean (hgrouping : grouping = true) : BreaksOff grouping .quotientExceedsFloat

section Values

/-- There is no text of a value only because of a long integer. -/
theorem Value.text_failsWith (v : Value) : FailsWith (· = .integerTooLongToWrite) v.text := by
  unfold text
  split
  · exact .ok _
  · exact .error rfl

theorem Value.before_failsWith (a b : Value) :
    FailsWith (· = .integerTooLongToWrite) (a.before b) := by
  refine FailsWith.bind ?_ fun _ => .ok _
  unfold compare
  split
  · exact .ok _
  · exact .ok _
  · exact .ok _
  · exact a.text_failsWith.bind fun _ => b.text_failsWith.bind fun _ => .ok _

theorem Condition.holds_failsWith (c : Condition) (row : Record) :
    FailsWith (· = .integerTooLongToWrite) (c.holds row) := by
  unfold holds
  split
  · unfold Value.equalsLiteral
    split
    · exact .ok _
    · exact .ok _
    · exact .ok _
    · exact .ok _
    · exact (Value.text_failsWith _).bind fun _ => .ok _
  · exact .ok _

end Values

section Groups

theorem Tally.add_failsWith (t : Tally) (n : Number) :
    FailsWith (· = .integerExceedsFloat) (t.add n) := by
  unfold add
  split
  · exact .error rfl
  · exact .ok _

theorem SelectItem.gather_failsWith (item : SelectItem) (t : Tally) (row : Record) :
    FailsWith (· = .integerExceedsFloat) (item.gather t row) := by
  unfold gather
  split
  · exact .ok _
  · exact .ok _
  · split
    · exact t.add_failsWith _
    · exact .ok _
  · exact .ok _

theorem Group.gather_failsWith (items : List SelectItem) (g : Group) (row : Record) :
    FailsWith (· = .integerExceedsFloat) (g.gather items row) :=
  (FailsWith.mapM (fun p => p.1.gather_failsWith p.2 row) _).bind fun _ => .ok _

theorem addToGroups_failsWith (items : List SelectItem) (key : List KeyPart) (row : Record)
    (groups : List Group) :
    FailsWith (· = .integerExceedsFloat) (addToGroups items key row groups) := by
  induction groups with
  | nil => exact (Group.gather_failsWith items _ row).bind fun _ => .ok _
  | cons g rest ih =>
      rw [addToGroups]
      split
      · exact (g.gather_failsWith items row).bind fun _ => .ok _
      · exact ih.bind fun _ => .ok _

theorem AggregateFunction.result_failsWith (f : AggregateFunction) (t : Tally) :
    FailsWith (· = .quotientExceedsFloat) (f.result t) := by
  cases f with
  | count | sum | least | greatest => exact .ok _
  | mean =>
      unfold result
      dsimp only
      split
      · exact .ok _
      · split
        · exact .ok _
        · exact .error rfl

theorem Group.row_failsWith (items : List SelectItem) (g : Group) :
    FailsWith (· = .quotientExceedsFloat) (g.row items) := by
  refine FailsWith.foldlM (fun output p => ?_) _ _
  unfold SelectItem.show
  split
  · exact (AggregateFunction.result_failsWith _ _).bind fun _ => .ok _
  · split
    · exact .ok _
    · exact .ok _

theorem aggregate_failsWith (items : List SelectItem) (columns : List String)
    (rows : List Record) :
    FailsWith (Query.BreaksOff true) (aggregate items columns rows) := by
  refine FailsWith.bind ?_ fun groups => ?_
  · refine FailsWith.foldlM (fun groups row => ?_) _ _
    refine (addToGroups_failsWith items _ row groups).mono ?_
    rintro _ rfl
    exact .sum rfl
  · refine FailsWith.mapM (fun g => (g.row_failsWith items).mono ?_) _
    rintro _ rfl
    exact .mean rfl

end Groups

variable {grouping : Bool}

theorem sortRows_failsWith (order : Option SortKey) (rows : List Record) :
    FailsWith (Query.BreaksOff grouping) (sortRows order rows) := by
  cases order with
  | none => exact .ok _
  | some k =>
      have hbefore (a b : Record) : FailsWith (Query.BreaksOff grouping)
          ((a.get k.column).before (b.get k.column)) := by
        refine (Value.before_failsWith _ _).mono ?_
        rintro _ rfl
        exact .noText
      unfold sortRows
      dsimp only
      split
      · exact (Sorting.sort_failsWith hbefore _).bind fun _ => .ok _
      · exact (Sorting.sortDescending_failsWith hbefore _).bind fun _ => .ok _

theorem Query.run_failsWith (q : Query) (rows : List Record) :
    FailsWith (BreaksOff grouping) (q.run grouping rows) := by
  have hselected : FailsWith (BreaksOff grouping) (selectRows q.condition rows) := by
    unfold selectRows
    split
    · exact .ok _
    · refine FailsWith.filterM (fun row => (Condition.holds_failsWith _ row).mono ?_) _
      rintro _ rfl
      exact .noText
  refine hselected.bind fun selected => ?_
  split
  · rename_i hgroups
    have hgrouping : grouping = true := (Bool.and_eq_true_iff.mp hgroups).2
    rw [hgrouping]
    refine (aggregate_failsWith _ _ selected).bind fun groups => ?_
    exact (sortRows_failsWith q.order groups).bind fun _ => .ok _
  · exact (sortRows_failsWith q.order selected).bind fun _ => .ok _

/-- A query text is rejected, has a limit with too many digits, or breaks off in its run. -/
theorem execute_failsWith (dataset : Option Dataset) (text : String) :
    FailsWith (fun fault => fault.isRejection = true ∨
        (∃ digits, OverlongLimit text digits ∧ fault = .integerTooLongToRead digits) ∨
        Query.BreaksOff grouping fault)
      (execute grouping dataset text) := by
  have hrows : FailsWith (fun fault => fault.isRejection = true) (requireRows dataset) := by
    unfold requireRows
    split
    · exact .error rfl
    · exact .mapError fun _ => rfl
  refine (hrows.mono fun _ => .inl).bind fun rows => ?_
  refine FailsWith.bind ?_ fun query => (query.run_failsWith rows).mono fun _ h => .inr (.inr h)
  intro fault hfault
  cases parse_eq_error.mp hfault with
  | empty | notSelection => exact .inl rfl
  | overlong hselect hlimit => exact .inr (.inl ⟨_, hlimit, rfl⟩)

end JsonQuery
