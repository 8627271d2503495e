import JsonQuery.Proofs.Sorting.Rearrangement
import JsonQuery.Proofs.Sorting.Stability
import JsonQuery.Proofs.Value.Order
import JsonQuery.Query.Run
import Mathlib.Tactic

/-!
The order of rows that a query asks for. Whatever the values are, a sort rearranges the rows
that have one and leaves the others behind them. If the values are all of one kind, the rows
come in the order of their values in either direction, and rows whose values compare equal
stay in the order they had.
-/

namespace JsonQuery

open Outcome Sorting

variable {column : String} {rows out : List Record}

/-- The rows with a value in a column. -/
def withValue (column : String) (rows : List Record) : List Record :=
  rows.filter fun row => !(row.get column).isNull

/-- The rows whose value in a column is null or absent. -/
def withoutValue (column : String) (rows : List Record) : List Record :=
  rows.filter fun row => (row.get column).isNull

/-- The rows with a value and the rows without one are all rows. -/
theorem withValue_append_withoutValue_perm (column : String) (rows : List Record) :
    (withValue column rows ++ withoutValue column rows).Perm rows :=
  List.perm_append_comm.trans (List.filter_append_perm _ _)

theorem sortRows_ascending (column : String) (rows : List Record) :
    sortRows (some ⟨column, .ascending⟩) rows =
      (sort (fun a b => (a.get column).before (b.get column)) (withValue column rows) >>=
        fun sorted => .ok (sorted ++ withoutValue column rows)) := rfl

theorem sortRows_descending (column : String) (rows : List Record) :
    sortRows (some ⟨column, .descending⟩) rows =
      (sortDescending (fun a b => (a.get column).before (b.get column)) (withValue column rows) >>=
        fun sorted => .ok (sorted ++ withoutValue column rows)) := rfl

/-- Whatever the values are, a sort that returns rearranges the rows with a value and leaves
the rows without one behind them in their own order. -/
theorem sortRows_eq_ok {k : SortKey} (h : sortRows (some k) rows = .ok out) :
    ∃ sorted, out = sorted ++ withoutValue k.column rows ∧
      sorted.Perm (withValue k.column rows) := by
  obtain ⟨column, direction⟩ := k
  cases direction with
  | ascending =>
      rw [sortRows_ascending] at h
      obtain ⟨sorted, hsort, hout⟩ := bind_eq_ok.mp h
      exact ⟨sorted, (Except.ok.inj hout).symm, sort_perm hsort⟩
  | descending =>
      rw [sortRows_descending] at h
      obtain ⟨sorted, hsort, hout⟩ := bind_eq_ok.mp h
      exact ⟨sorted, (Except.ok.inj hout).symm, sortDescending_perm hsort⟩

/-- Whether the values of two rows in a column compare equal. -/
def tied (column : String) (a b : Record) : Bool :=
  match (a.get column).compare (b.get column) with
  | .ok .eq => true
  | _ => false

/-- The outcomes of comparing a value with a later one that a direction admits. -/
def Direction.admits : Direction → Ordering → Prop
  | .ascending, o => o ≠ .gt
  | .descending, o => o ≠ .lt

/-- The stable sort of the rows with a value: they are all there, each value compares with
every later one as the direction admits, and the rows that tie with a row are in the order
they had. -/
structure StablySorted (k : SortKey) (rows sorted : List Record) : Prop where
  perm : sorted.Perm (withValue k.column rows)
  inOrder : sorted.Pairwise fun a b =>
    ∃ o, (a.get k.column).compare (b.get k.column) = .ok o ∧ k.direction.admits o
  ties : ∀ row ∈ sorted, sorted.filter (tied k.column row) =
    (withValue k.column rows).filter (tied k.column row)

section Keyed

variable {κ : Type} [LinearOrder κ] {key : Value → κ} {S : Value → Prop} {sorted : List Record}

/-- Where values are compared by a key, that a value comes before another is decided by the
keys. -/
theorem decides_before (hkey : Value.ComparesBy key S) :
    Decides (fun a b : Record => (a.get column).before (b.get column))
      (fun row => key (row.get column)) (fun row => S (row.get column)) := by
  intro a b ha hb
  obtain ⟨o, hcompare, horder⟩ := hkey _ _ ha hb
  change Value.before _ _ = _
  rw [Value.before, hcompare, ok_bind]
  exact congrArg Except.ok (beq_lt_of_compares horder)

/-- Where values are compared by a key, rows tie if their keys are equal. -/
theorem tied_iff (hkey : Value.ComparesBy key S) {a b : Record} (ha : S (a.get column))
    (hb : S (b.get column)) :
    tied column a b = true ↔ key (b.get column) = key (a.get column) := by
  obtain ⟨o, hcompare, horder⟩ := hkey _ _ ha hb
  have hequal : key (b.get column) = key (a.get column) ↔ o = .eq :=
    eq_comm.trans horder.eq_eq.symm
  rw [hequal, tied, hcompare]
  cases o <;> simp

/-- Lists with the same ties have the same rows tied with a row. -/
theorem filter_tied (hkey : Value.ComparesBy key S)
    (hrows : ∀ row ∈ withValue column rows, S (row.get column))
    (hties : SameTies (fun row : Record => key (row.get column)) (withValue column rows) sorted)
    {row : Record} (hrow : row ∈ sorted) :
    sorted.filter (tied column row) = (withValue column rows).filter (tied column row) := by
  have hS : ∀ r ∈ sorted, S (r.get column) := fun r hr => hrows r (hties.mem_iff.mpr hr)
  have hfilter (xs : List Record) (hxs : ∀ x ∈ xs, S (x.get column)) :
      xs.filter (tied column row) =
        xs.filter fun x => key (x.get column) = key (row.get column) := by
    apply List.filter_congr
    intro x hx
    exact Bool.eq_iff_iff.mpr ((tied_iff hkey (hS row hrow) (hxs x hx)).trans (by simp))
  rw [hfilter sorted hS, hfilter _ hrows]
  exact (hties _).symm

/-- A list with the ties of the rows with a value is their stable sort in a direction that
admits whatever the keys of a row and a later one compare as. -/
theorem stablySorted {direction : Direction} (hkey : Value.ComparesBy key S)
    (hrows : ∀ row ∈ withValue column rows, S (row.get column))
    (horder : sorted.Pairwise fun a b =>
      ∀ o : Ordering, o.Compares (key (a.get column)) (key (b.get column)) → direction.admits o)
    (hties : SameTies (fun row : Record => key (row.get column)) (withValue column rows) sorted) :
    StablySorted ⟨column, direction⟩ rows sorted where
  perm := hties.perm.symm
  inOrder := by
    refine List.Pairwise.imp_of_mem ?_ horder
    intro a b ha hb hadmits
    obtain ⟨o, hcompare, ho⟩ := hkey _ _ (hrows a (hties.mem_iff.mpr ha))
      (hrows b (hties.mem_iff.mpr hb))
    exact ⟨o, hcompare, hadmits o ho⟩
  ties := fun _ => filter_tied hkey hrows hties

end Keyed

/-- If the values in a column are all numbers with a place, all truth values or all texts,
sorting by the column returns in both directions. The rows with a value come first, stably
sorted, the rows without one follow in the order they had, and no row is lost. If no two
values compare equal, one direction is the exact reverse of the other. -/
theorem sortRows_stable (kind : ValueKind)
    (hkind : ∀ row ∈ withValue column rows, kind.includes (row.get column) = true) :
    ∃ up down,
      sortRows (some ⟨column, .ascending⟩) rows = .ok (up ++ withoutValue column rows) ∧
      sortRows (some ⟨column, .descending⟩) rows = .ok (down ++ withoutValue column rows) ∧
      StablySorted ⟨column, .ascending⟩ rows up ∧
      StablySorted ⟨column, .descending⟩ rows down ∧
      (up ++ withoutValue column rows).Perm rows ∧
      (down ++ withoutValue column rows).Perm rows ∧
      ((withValue column rows).Pairwise (fun a b => tied column a b = false) →
        down = up.reverse) := by
  obtain ⟨κ, _, key, hkey⟩ := Value.exists_comparesBy kind
  have hdecides : Decides (fun a b : Record => (a.get column).before (b.get column))
      (fun row => key (row.get column)) (· ∈ withValue column rows) := by
    intro a b ha hb
    exact decides_before hkey a b (hkind a ha) (hkind b hb)
  obtain ⟨up, hsortUp, hup, htiesUp⟩ := sort_stable hdecides
  obtain ⟨down, hsortDown, hdown, htiesDown⟩ := sortDescending_stable hdecides
  have hall {sorted : List Record} (hperm : (withValue column rows).Perm sorted) :
      (sorted ++ withoutValue column rows).Perm rows :=
    (hperm.symm.append_right _).trans (withValue_append_withoutValue_perm column rows)
  refine ⟨up, down, ?_, ?_, stablySorted hkey hkind ?_ htiesUp,
    stablySorted hkey hkind ?_ htiesDown, hall htiesUp.perm, hall htiesDown.perm, ?_⟩
  · rw [sortRows_ascending, hsortUp, ok_bind]
  · rw [sortRows_descending, hsortDown, ok_bind]
  · refine hup.imp ?_
    rintro a b hle o ho rfl
    exact absurd hle (not_le_of_gt (ho.eq_gt.mp rfl))
  · refine (List.pairwise_reverse.mp hdown).imp ?_
    rintro a b hle o ho rfl
    exact absurd hle (not_le_of_gt (ho.eq_lt.mp rfl))
  · intro hdifferent
    have hturn : SameTies (fun row : Record => key (row.get column)) (withValue column rows)
        (withValue column rows).reverse := by
      apply SameTies.turn
      refine List.Pairwise.imp_of_mem ?_ hdifferent
      intro a b ha hb htied heq
      exact Bool.eq_false_iff.mp htied
        ((tied_iff hkey (hkind a ha) (hkind b hb)).mpr heq.symm)
    -- both `up` and the reverse of `down` are the stable sort of the rows with a value
    have hsame : SameTies (fun row : Record => key (row.get column)) up down.reverse :=
      (htiesUp.symm.trans hturn).trans htiesDown.reverse
    rw [hup.eq_of_sameTies hdown hsame, List.reverse_reverse]

/-- An integer and a number with a fraction are sorted among themselves, the null and the
absent value stand behind them. -/
theorem sortRows_mixed_numbers :
    let rows : List Record := [[("a", .ofInt 2)], [("a", .null)],
      [("a", .ofFloat (.finite false 1))], [("b", .ofInt 0)], [("a", .ofInt 1)]]
    (∀ row ∈ withValue "a" rows, ValueKind.numeric.includes (row.get "a") = true) ∧
      ∃ up down,
        sortRows (some ⟨"a", .ascending⟩) rows =
          .ok (up ++ [[("a", .null)], [("b", .ofInt 0)]]) ∧
        sortRows (some ⟨"a", .descending⟩) rows =
          .ok (down ++ [[("a", .null)], [("b", .ofInt 0)]]) ∧
        StablySorted ⟨"a", .ascending⟩ rows up ∧
        StablySorted ⟨"a", .descending⟩ rows down ∧
        down = up.reverse := by
  intro rows
  have hkind : ∀ row ∈ withValue "a" rows, ValueKind.numeric.includes (row.get "a") = true := by
    decide
  obtain ⟨up, down, hup, hdown, hupSorted, hdownSorted, _, _, hreverse⟩ :=
    sortRows_stable .numeric hkind
  exact ⟨hkind, up, down, hup, hdown, hupSorted, hdownSorted, hreverse (by decide +kernel)⟩

end JsonQuery
