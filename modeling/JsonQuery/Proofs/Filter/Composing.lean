import JsonQuery.Filter.Basic
import JsonQuery.Proofs.Query.Failing

/-!
Filtering by several rules. A record is tried against the rules one after the other up to the first
one that it does not satisfy, so the rules behind that one can neither keep it nor break off. Two
lists of rules, one behind the other, therefore ask of each record what they ask in two passes over
the records. Which records are kept depends on the rules only as a set; whether the filter returns
depends on their order too.
-/

namespace JsonQuery

open Outcome

namespace Value

/-- A record is decided by rules: it satisfies each of them up to the first one that it does not
satisfy, if there is one. -/
inductive DecidedBy (item : Value) : List FilterRule → Prop
  | nil : DecidedBy item []
  | accepted {rule : FilterRule} {rules : List FilterRule} (haccepts : rule.accepts item = .ok true)
      (hrest : DecidedBy item rules) : DecidedBy item (rule :: rules)
  | rejected {rule : FilterRule} {rules : List FilterRule}
      (hrejects : rule.accepts item = .ok false) : DecidedBy item (rule :: rules)

/-- Whether a record satisfies every rule. -/
def satisfiesAll (item : Value) (rules : List FilterRule) : Bool :=
  rules.all fun rule => (rule.accepts item).toOption == some true

end Value

section Rules

variable {item : Value} {rule : FilterRule} {rules more : List FilterRule}

theorem FilterRule.acceptsValue_failsWith (rule : FilterRule) (v : Value) :
    FailsWith (· = .integerTooLongToWrite) (rule.acceptsValue v) := by
  unfold acceptsValue
  split
  · split <;> exact (Value.text_failsWith _).bind fun _ => .ok _
  · exact v.text_failsWith.bind fun _ => .ok _
  · split <;> exact .ok _

/-- The only thing a rule breaks off with is an integer that has no text. -/
theorem FilterRule.accepts_failsWith (rule : FilterRule) (item : Value) :
    FailsWith (· = .integerTooLongToWrite) (rule.accepts item) := by
  have hvalue (v : Value) : FailsWith (· = Fault.integerTooLongToWrite)
      (if v.isNull then return rule.operator == .equals && rule.value.isEmpty
        else rule.acceptsValue v) := by
    split
    · exact .ok _
    · exact rule.acceptsValue_failsWith v
  exact hvalue _

theorem acceptsAll_failsWith (item : Value) (rules : List FilterRule) :
    FailsWith (· = .integerTooLongToWrite) (acceptsAll item rules) := by
  induction rules with
  | nil => exact .ok _
  | cons rule rules ih =>
      refine (rule.accepts_failsWith item).bind fun accepted => ?_
      cases accepted with
      | true => exact ih
      | false => exact .ok _

theorem Value.satisfiesAll_cons_of_accepts (h : rule.accepts item = .ok true) :
    item.satisfiesAll (rule :: rules) = item.satisfiesAll rules := by
  simp [satisfiesAll, h, Except.toOption]

theorem Value.satisfiesAll_cons_of_rejects (h : rule.accepts item = .ok false) :
    item.satisfiesAll (rule :: rules) = false := by
  simp [satisfiesAll, h, Except.toOption]

theorem acceptsAll_eq_ok_iff {passed : Bool} :
    acceptsAll item rules = .ok passed ↔
      item.DecidedBy rules ∧ passed = item.satisfiesAll rules := by
  induction rules generalizing passed with
  | nil => exact ⟨fun h => ⟨.nil, (Except.ok.inj h).symm⟩, fun h => congrArg Except.ok h.2.symm⟩
  | cons rule rules ih =>
      rw [acceptsAll, bind_eq_ok]
      constructor
      · rintro ⟨accepted, haccepts, hrest⟩
        cases accepted with
        | true =>
            rw [Value.satisfiesAll_cons_of_accepts haccepts]
            exact (ih.mp hrest).imp_left (.accepted haccepts)
        | false =>
            rw [Value.satisfiesAll_cons_of_rejects haccepts]
            exact ⟨.rejected haccepts, (pure_eq_ok.mp hrest).symm⟩
      · rintro ⟨hdecided, rfl⟩
        cases hdecided with
        | accepted haccepts hrest =>
            rw [Value.satisfiesAll_cons_of_accepts haccepts]
            exact ⟨true, haccepts, ih.mpr ⟨hrest, rfl⟩⟩
        | rejected hrejects =>
            -- The rules behind one that rejects are not looked at.
            rw [Value.satisfiesAll_cons_of_rejects hrejects]
            exact ⟨false, hrejects, rfl⟩

theorem Value.decidedBy_append :
    item.DecidedBy (rules ++ more) ↔
      item.DecidedBy rules ∧ (item.satisfiesAll rules = true → item.DecidedBy more) := by
  induction rules with
  | nil => exact ⟨fun h => ⟨.nil, fun _ => h⟩, fun h => h.2 rfl⟩
  | cons rule rules ih =>
      constructor
      · intro h
        cases h with
        | accepted haccepts hrest =>
            rw [satisfiesAll_cons_of_accepts haccepts]
            exact (ih.mp hrest).imp_left (.accepted haccepts)
        | rejected hrejects =>
            rw [satisfiesAll_cons_of_rejects hrejects]
            exact ⟨.rejected hrejects, nofun⟩
      · rintro ⟨hfirst, hmore⟩
        cases hfirst with
        | accepted haccepts hrest =>
            rw [satisfiesAll_cons_of_accepts haccepts] at hmore
            exact .accepted haccepts (ih.mpr ⟨hrest, hmore⟩)
        | rejected hrejects => exact .rejected hrejects

theorem Value.satisfiesAll_append :
    item.satisfiesAll (rules ++ more) = (item.satisfiesAll rules && item.satisfiesAll more) :=
  List.all_append

end Rules

section Records

variable {data kept : List Value} {rules more : List FilterRule}

/-- A filter returns exactly if its rules decide every record, and then it keeps the records that
satisfy all of them. -/
theorem applyFilters_eq_ok_iff :
    applyFilters data rules = .ok kept ↔
      (∀ item ∈ data, item.DecidedBy rules) ∧
        kept = data.filter fun item => item.satisfiesAll rules := by
  have hdecided (item : Value) : (∃ passed, acceptsAll item rules = .ok passed) ↔
      item.DecidedBy rules := by
    simp [acceptsAll_eq_ok_iff]
  rw [applyFilters, filterM_eq_ok_iff]
  simp only [hdecided]
  refine and_congr_right fun hall => ?_
  have hpassed : (data.filter fun item => (acceptsAll item rules).toOption == some true) =
      data.filter fun item => item.satisfiesAll rules := by
    refine List.filter_congr fun item hitem => ?_
    have hitem := acceptsAll_eq_ok_iff.mpr ⟨hall item hitem, rfl⟩
    rw [hitem]
    cases item.satisfiesAll rules <;> rfl
  rw [hpassed]

theorem applyFilters_failsWith (data : List Value) (rules : List FilterRule) :
    FailsWith (· = .integerTooLongToWrite) (applyFilters data rules) :=
  .filterM (fun item => acceptsAll_failsWith item rules) data

/-- Filtering by two lists of rules at once is filtering by the one and what is left by the other,
also where one of them breaks off. -/
theorem applyFilters_append (data : List Value) (rules more : List FilterRule) :
    applyFilters data (rules ++ more) =
      applyFilters data rules >>= fun kept => applyFilters kept more := by
  refine eq_of_failsWith (applyFilters_failsWith _ _)
    ((applyFilters_failsWith _ _).bind fun _ => applyFilters_failsWith _ _) fun kept => ?_
  simp only [bind_eq_ok, applyFilters_eq_ok_iff, Value.decidedBy_append, Value.satisfiesAll_append]
  constructor
  · rintro ⟨hall, rfl⟩
    refine ⟨_, ⟨fun item hitem => (hall item hitem).1, rfl⟩, fun item hitem => ?_, ?_⟩
    · obtain ⟨hitem, hsatisfies⟩ := List.mem_filter.mp hitem
      exact (hall item hitem).2 hsatisfies
    · rw [List.filter_filter]
      exact List.filter_congr fun item _ => Bool.and_comm _ _
  · rintro ⟨_, ⟨hfirst, rfl⟩, hmore, rfl⟩
    refine ⟨fun item hitem => ⟨hfirst item hitem, fun hsatisfies => ?_⟩, ?_⟩
    · exact hmore item (List.mem_filter.mpr ⟨hitem, hsatisfies⟩)
    · rw [List.filter_filter]
      exact List.filter_congr fun item _ => Bool.and_comm _ _

/-- Filters compose. Filtering by two lists of rules is filtering by the first and then by the
second, and returns or breaks off as that does. A filter returns exactly if its rules decide every
record. What it returns are the records that satisfy all rules, in their order; filtering them
again changes nothing, and in any other order the rules keep the same records, if they return. -/
theorem applyFilters_composes (data : List Value) (rules more : List FilterRule) :
    (applyFilters data (rules ++ more) =
      applyFilters data rules >>= fun kept => applyFilters kept more) ∧
    ((∃ kept, applyFilters data rules = .ok kept) ↔ ∀ item ∈ data, item.DecidedBy rules) ∧
    ∀ kept, applyFilters data rules = .ok kept →
      kept.Sublist data ∧ kept = (data.filter fun item => item.satisfiesAll rules) ∧
      applyFilters kept rules = .ok kept ∧
      ∀ reordered, reordered.Perm rules →
        ∀ kept', applyFilters data reordered = .ok kept' → kept' = kept := by
  refine ⟨applyFilters_append data rules more, ?_, fun kept hkept => ?_⟩
  · simp [applyFilters_eq_ok_iff]
  · obtain ⟨hall, rfl⟩ := applyFilters_eq_ok_iff.mp hkept
    refine ⟨List.filter_sublist, rfl, applyFilters_eq_ok_iff.mpr ⟨fun item hitem => ?_, ?_⟩,
      fun reordered hperm kept' hkept' => ?_⟩
    · exact hall item (List.mem_of_mem_filter hitem)
    · rw [List.filter_filter]
      exact List.filter_congr fun item _ => (Bool.and_self _).symm
    · rw [(applyFilters_eq_ok_iff.mp hkept').2]
      exact List.filter_congr fun item _ => hperm.all_eq

/-- Whether a filter returns depends on the order of its rules: one that is not satisfied keeps
the ones behind it from breaking off at an integer that has no text. -/
example :
    let item : Value := .object [("a", .ofInt (10 ^ 4300)), ("b", .ofInt 1)]
    let long : FilterRule := ⟨"a", .contains, "1"⟩
    let bounded : FilterRule := ⟨"b", .greater, "5"⟩
    (applyFilters [item] [bounded, long]).toOption.map List.length = some 0 ∧
      (applyFilters [item] [long, bounded]).toOption.map List.length = none := by
  decide +kernel

end Records

end JsonQuery
