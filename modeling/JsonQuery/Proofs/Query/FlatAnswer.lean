import JsonQuery.Proofs.Dataset.Flat
import JsonQuery.Proofs.Query.Aggregation
import JsonQuery.Proofs.Query.Selection

/-!
Answers to queries are flat. A projection copies cells of a flat row, a row of a group holds
copied cells and results of functions, which are scalars, and every other stage only chooses
rows and arranges them.
-/

namespace JsonQuery

open Outcome

variable {row out : Record} {k : String} {v : Value}

namespace Record

theorem IsFlat.get?_isScalar (h : row.IsFlat) (hv : row.get? k = some v) : v.isScalar = true :=
  h.scalar (k, v) (mem_of_get? hv)

end Record

/-- A projection copies cells of the row. -/
theorem Projection.apply_isFlat (p : Projection) (h : row.IsFlat) : (p.apply row).IsFlat := by
  cases p with
  | everything => exact h
  | listed items =>
      rw [apply]
      refine List.foldlRecOn items _ .nil fun output houtput item _ => ?_
      split
      · rename_i v hv
        exact houtput.put (h.get?_isScalar hv)
      · exact houtput

section Groups

/-- What a function results in is a number or null. -/
theorem AggregateFunction.result_isScalar {f : AggregateFunction} {t : Tally}
    (h : f.result t = .ok v) : v.isScalar = true := by
  have horNull (n : Option Number) : ((n.map Value.number).getD .null).isScalar = true := by
    cases n with
    | none => rfl
    | some n => rfl
  cases f with
  | count | sum => exact pure_eq_ok.mp h ▸ rfl
  | mean =>
      rw [result] at h
      split at h
      · exact pure_eq_ok.mp h ▸ rfl
      · split at h
        · exact pure_eq_ok.mp h ▸ rfl
        · cases h
  | least | greatest => exact pure_eq_ok.mp h ▸ horNull _

variable {items : List SelectItem} {columns : List String} {rows : List Record}

/-- An entry writes the result of its function or a cell of the first row. -/
theorem SelectItem.show_isFlat {item : SelectItem} {first : Option Record} {t : Tally}
    {output : Record} (hfirst : ∀ row ∈ first, row.IsFlat) (houtput : output.IsFlat)
    (h : item.show first t output = .ok out) : out.IsFlat := by
  unfold SelectItem.show at h
  split at h
  · obtain ⟨v, hv, hout⟩ := bind_eq_ok.mp h
    rw [← pure_eq_ok.mp hout]
    exact houtput.put (AggregateFunction.result_isScalar hv)
  · split at h
    · rename_i v hv
      obtain ⟨row, hrow, hcell⟩ := Option.bind_eq_some_iff.mp hv
      rw [← pure_eq_ok.mp h]
      exact houtput.put ((hfirst row hrow).get?_isScalar hcell)
    · rw [← pure_eq_ok.mp h]
      exact houtput

theorem Group.row_isFlat {g : Group} (hfirst : ∀ row ∈ g.first, row.IsFlat)
    (h : g.row items = .ok out) : out.IsFlat := by
  have hshown {entries : List (SelectItem × Tally)} {output : Record} (houtput : output.IsFlat)
      (h : entries.foldlM (fun output p => p.1.show g.first p.2 output) output = .ok out) :
      out.IsFlat := by
    induction entries generalizing output with
    | nil => exact pure_eq_ok.mp h ▸ houtput
    | cons p entries ih =>
        rw [List.foldlM_cons] at h
        obtain ⟨next, hnext, hrest⟩ := bind_eq_ok.mp h
        exact ih (SelectItem.show_isFlat hfirst houtput hnext) hrest
  exact hshown .nil h

/-- Groups of flat rows have flat rows. -/
theorem aggregate_isFlat {groups : List Record} (hrows : ∀ row ∈ rows, row.IsFlat)
    (h : aggregate items columns rows = .ok groups) : ∀ row ∈ groups, row.IsFlat := by
  intro row hrow
  obtain ⟨group, hgroup, hshown⟩ := exists_of_forall₂ (aggregate_eq_ok.mp h) hrow
  obtain ⟨tallies, -, hshown⟩ := bind_eq_ok.mp hshown
  apply Group.row_isFlat _ hshown
  intro first hfirst
  have hmem : first ∈ (rowGroups columns rows).flatten :=
    List.mem_flatten.mpr ⟨group, hgroup, List.mem_of_mem_head? hfirst⟩
  exact hrows first ((rowGroups_grouped columns rows).exhaust.mem_iff.mp hmem)

end Groups

section Answers

variable {q : Query} {rows : List Record} {grouping : Bool} {r : QueryResult}

/-- Sorting arranges rows. -/
theorem mem_of_mem_sortRows {order : Option SortKey} {arranged : List Record}
    (h : sortRows order rows = .ok arranged) (hrow : row ∈ arranged) : row ∈ rows := by
  have hall : selectRows none rows = .ok rows := rfl
  have hperm := (arranges_of_sorted hall h).perm
  rw [← selectRows_eq_ok hall] at hperm
  exact hperm.mem_iff.mp hrow

/-- A limit chooses rows. -/
theorem mem_of_mem_limitRows {limit : Option Nat} (hrow : row ∈ limitRows limit rows) :
    row ∈ rows := by
  cases limit with
  | none => exact hrow
  | some n => exact List.mem_of_mem_take hrow

/-- A query over flat rows answers flat rows. -/
theorem run_isFlat (hrows : ∀ row ∈ rows, row.IsFlat) (h : q.run grouping rows = .ok r) :
    ∀ row ∈ r.rows, row.IsFlat := by
  obtain ⟨selected, hselect, hrest⟩ := bind_eq_ok.mp h
  have hselected : ∀ row ∈ selected, row.IsFlat := by
    intro row hrow
    rw [selectRows_eq_ok hselect] at hrow
    exact hrows row (List.mem_of_mem_filter hrow)
  split at hrest
  · obtain ⟨groups, hgroups, hrest⟩ := bind_eq_ok.mp hrest
    obtain ⟨sorted, hsort, hr⟩ := bind_eq_ok.mp hrest
    obtain rfl := pure_eq_ok.mp hr
    intro row hrow
    exact aggregate_isFlat hselected hgroups row
      (mem_of_mem_sortRows hsort (mem_of_mem_limitRows hrow))
  · obtain ⟨sorted, hsort, hr⟩ := bind_eq_ok.mp hrest
    obtain rfl := pure_eq_ok.mp hr
    intro row hrow
    obtain ⟨source, hsource, rfl⟩ := List.mem_map.mp hrow
    exact q.projection.apply_isFlat
      (hselected source (mem_of_mem_sortRows hsort (mem_of_mem_limitRows hsource)))

/-- A query over a dataset answers flat rows. -/
theorem execute_isFlat {raw : Value} {url : Option String} {d : Dataset} {text : String}
    (hd : Dataset.ofValue raw url = .ok d) (h : execute grouping (some d) text = .ok r) :
    ∀ row ∈ r.rows, row.IsFlat := by
  obtain ⟨rows, hrows, hrest⟩ := bind_eq_ok.mp h
  obtain ⟨q, -, hrun⟩ := bind_eq_ok.mp hrest
  obtain ⟨_, ⟨⟩, hcontent⟩ := requireRows_eq_ok.mp hrows
  have hflat := Dataset.rows_isFlat hd
  rw [Dataset.rows, hcontent] at hflat
  exact run_isFlat hflat hrun

end Answers

end JsonQuery
