import JsonQuery.Proofs.Query.Sorted
import JsonQuery.Proofs.Value.Record
import Mathlib

/-!
Which rows a query without groups selects, and in which order. Both are settled by the
rows, the condition and the sort key alone: the limit cuts a front part off that
arrangement, and the projection chooses which keys of each row are shown.
-/

namespace JsonQuery

open Outcome

variable {grouping : Bool} {q : Query} {rows : List Record} {r : QueryResult}

/-- Whether a row satisfies a condition, if there is one. -/
def satisfies (condition : Option Condition) (row : Record) : Bool :=
  match condition with
  | none => true
  | some c => (c.holds row).toOption == some true

/-- The rows that are selected are those that satisfy the condition, in their order. -/
theorem selectRows_eq_ok {condition : Option Condition} {selected : List Record}
    (h : selectRows condition rows = .ok selected) :
    selected = rows.filter (satisfies condition) := by
  cases condition with
  | none =>
      rw [← pure_eq_ok.mp h]
      exact (List.filter_true rows).symm
  | some c => exact filterM_eq_ok h

/-- An arrangement of the rows that satisfy a condition for a sort key: it holds each of
them once, in their own order if there is no key, and otherwise with the rows without a
value behind those with one, in their own order. -/
structure Arranges (condition : Option Condition) (order : Option SortKey)
    (rows arranged : List Record) : Prop where
  perm : arranged.Perm (rows.filter (satisfies condition))
  unsorted : order = none → arranged = rows.filter (satisfies condition)
  missingLast : ∀ k, order = some k → ∃ present,
    arranged = present ++ withoutValue k.column (rows.filter (satisfies condition)) ∧
    ∀ row ∈ present, (row.get k.column).isNull = false

/-- Selecting and sorting arranges the rows that satisfy the condition, whatever comes of
comparing their values. -/
theorem arranges_of_sorted {condition : Option Condition} {order : Option SortKey}
    {selected arranged : List Record} (hselect : selectRows condition rows = .ok selected)
    (hsort : sortRows order selected = .ok arranged) :
    Arranges condition order rows arranged := by
  have hselected := selectRows_eq_ok hselect
  subst hselected
  cases order with
  | none =>
      have hsame : arranged = rows.filter (satisfies condition) := (pure_eq_ok.mp hsort).symm
      exact ⟨.of_eq hsame, fun _ => hsame, fun k hk => absurd hk.symm (Option.some_ne_none k)⟩
  | some k =>
      obtain ⟨present, harranged, hperm⟩ := sortRows_eq_ok hsort
      refine ⟨?_, (fun hnone => absurd hnone (Option.some_ne_none k)), ?_⟩
      · rw [harranged]
        exact (hperm.append_right _).trans (withValue_append_withoutValue_perm k.column _)
      · rintro _ ⟨⟩
        refine ⟨present, harranged, ?_⟩
        intro row hrow
        have hvalue := (List.mem_filter.mp (hperm.mem_iff.mp hrow)).2
        simpa using hvalue

/-- The keys that a projection shows of a row, as far as the row has them. -/
def Projection.shows : Projection → String → Bool
  | .everything, _ => true
  | .listed items, key => items.any fun item => item.lookupKey == key

/-- Writing the values of a row under the keys of some entries shows them under these keys,
and everywhere else what was there. -/
theorem get?_foldl_put (row : Record) (items : List SelectItem) (output : Record) (key : String) :
    (items.foldl (fun output item =>
        match row.get? item.lookupKey with
        | some v => output.put item.lookupKey v
        | none => output) output).get? key =
      if (Projection.listed items).shows key then (row.get? key).or (output.get? key)
      else output.get? key := by
  induction items generalizing output with
  | nil => rfl
  | cons item items ih =>
      have hshows : (Projection.listed (item :: items)).shows key =
          (item.lookupKey == key || (Projection.listed items).shows key) := rfl
      rw [List.foldl_cons, ih, hshows]
      by_cases hkey : item.lookupKey = key
      · rw [hkey, BEq.rfl, Bool.true_or, if_pos rfl]
        cases row.get? key with
        | none => simp
        | some v => simp [Record.get?_put]
      · rw [beq_false_of_ne hkey, Bool.false_or]
        cases row.get? item.lookupKey with
        | none => rfl
        | some v =>
            dsimp only
            rw [Record.get?_put, if_neg hkey]

/-- A row is shown under the keys of the projection with the values it has there. -/
theorem Projection.get?_apply (p : Projection) (row : Record) (key : String) :
    (p.apply row).get? key = if p.shows key then row.get? key else none := by
  cases p with
  | everything => rfl
  | listed items =>
      refine (get?_foldl_put row items [] key).trans ?_
      rw [Record.get?_nil, Option.or_none]

/-- A query without groups returns when its rows can be selected and sorted, and shows them
up to its limit. -/
theorem run_eq (hplain : (q.isAggregate && grouping) = false) {arranged : List Record}
    (h : selectRows q.condition rows >>= sortRows q.order = .ok arranged) :
    ∃ r, q.run grouping rows = .ok r ∧
      r.rows = (limitRows q.limit arranged).map q.projection.apply := by
  obtain ⟨selected, hselect, hsort⟩ := bind_eq_ok.mp h
  refine ⟨⟨(limitRows q.limit arranged).map q.projection.apply,
    q.warnings ++ if q.isAggregate then [.inertAggregates] else []⟩, ?_, rfl⟩
  rw [Query.run, hselect, ok_bind, hplain, if_neg Bool.false_ne_true, hsort]
  rfl

/-- A query without groups returns exactly if its stages do one after the other. -/
theorem run_eq_ok (hplain : (q.isAggregate && grouping) = false) :
    q.run grouping rows = .ok r ↔
      ∃ selected arranged, selectRows q.condition rows = .ok selected ∧
        sortRows q.order selected = .ok arranged ∧
        r = ⟨(limitRows q.limit arranged).map q.projection.apply,
          q.warnings ++ if q.isAggregate then [.inertAggregates] else []⟩ := by
  rw [Query.run, bind_eq_ok, hplain]
  constructor
  · rintro ⟨selected, hselect, hrest⟩
    obtain ⟨arranged, hsort, hr⟩ := bind_eq_ok.mp hrest
    exact ⟨selected, arranged, hselect, hsort, (pure_eq_ok.mp hr).symm⟩
  · rintro ⟨selected, arranged, hselect, hsort, rfl⟩
    exact ⟨selected, hselect, bind_eq_ok.mpr ⟨arranged, hsort, rfl⟩⟩

/-- There are rows to query exactly if there is a dataset that offers them. -/
theorem requireRows_eq_ok {dataset : Option Dataset} :
    requireRows dataset = .ok rows ↔ ∃ d, dataset = some d ∧ d.content = .ok rows := by
  cases dataset with
  | none => simp [requireRows]
  | some d =>
      cases hcontent : d.content with
      | ok content => simp [requireRows, Dataset.requireRows, hcontent, Except.mapError]
      | error reason => simp [requireRows, Dataset.requireRows, hcontent, Except.mapError]

/-- A query without groups shows the first rows, up to its limit, of an arrangement of the
rows that satisfy its condition. The arrangement belongs to the rows, the condition and the
sort key: every query without groups that has the same ones returns too, and shows the first
rows of the same arrangement up to its own limit with its own keys. In particular a limit
cuts off the result without one. -/
theorem run_selects (hplain : (q.isAggregate && grouping) = false)
    (h : q.run grouping rows = .ok r) :
    ∃ arranged, Arranges q.condition q.order rows arranged ∧
      r.rows = (limitRows q.limit arranged).map q.projection.apply ∧
      (∀ (q' : Query) (grouping' : Bool), (q'.isAggregate && grouping') = false →
        q'.condition = q.condition → q'.order = q.order →
        ∃ r', q'.run grouping' rows = .ok r' ∧
          r'.rows = (limitRows q'.limit arranged).map q'.projection.apply) ∧
      (∀ n, ∃ whole part, { q with limit := none }.run grouping rows = .ok whole ∧
        { q with limit := some n }.run grouping rows = .ok part ∧
        part.rows = whole.rows.take n) ∧
      ∀ (p : Projection) (row : Record) (key : String),
        (p.apply row).get? key = if p.shows key then row.get? key else none := by
  have hparts : ∃ arranged, selectRows q.condition rows >>= sortRows q.order = .ok arranged := by
    rw [Query.run] at h
    obtain ⟨selected, hselect, hrest⟩ := bind_eq_ok.mp h
    rw [hplain] at hrest
    obtain ⟨arranged, hsort, -⟩ := bind_eq_ok.mp hrest
    exact ⟨arranged, bind_eq_ok.mpr ⟨selected, hselect, hsort⟩⟩
  obtain ⟨arranged, harranged⟩ := hparts
  obtain ⟨selected, hselect, hsort⟩ := bind_eq_ok.mp harranged
  refine ⟨arranged, arranges_of_sorted hselect hsort, ?_, ?_, ?_, Projection.get?_apply⟩
  · obtain ⟨r₀, hrun, hrows⟩ := run_eq hplain harranged
    rw [Except.ok.inj (h.symm.trans hrun)]
    exact hrows
  · intro q' grouping' hplain' hcondition horder
    rw [← hcondition, ← horder] at harranged
    exact run_eq hplain' harranged
  · intro n
    obtain ⟨whole, hwhole, hwholeRows⟩ :=
      run_eq (q := { q with limit := none }) hplain harranged
    obtain ⟨part, hpart, hpartRows⟩ :=
      run_eq (q := { q with limit := some n }) hplain harranged
    refine ⟨whole, part, hwhole, hpart, ?_⟩
    rw [hwholeRows, hpartRows]
    exact List.map_take

/-- Rows whose values are of several kinds, one of them no number, are selected and sorted
too. -/
theorem run_selects_mixed_values :
    let rows : List Record := [[("a", .string "x")], [], [("a", .ofFloat .nan), ("b", .null)],
      [("a", .bool true)]]
    let q : Query := { text := "", projection := .listed [⟨"a", .column "a" none⟩]
                       source := some "data", condition := none, grouping := []
                       order := some ⟨"a", .descending⟩, limit := some 2, warnings := [] }
    (q.isAggregate && true) = false ∧
      ∃ r, q.run true rows = .ok r ∧
        ∃ arranged, Arranges none (some ⟨"a", .descending⟩) rows arranged ∧
          r.rows = (limitRows (some 2) arranged).map q.projection.apply := by
  intro rows q
  have hrun : q.run true rows =
      .ok ⟨[[("a", .string "x")], [("a", .bool true)]], []⟩ := by
    cbv
  obtain ⟨arranged, harranges, hrows, -⟩ := run_selects (by rfl) hrun
  exact ⟨rfl, _, hrun, arranged, harranges, hrows⟩

end JsonQuery
