import JsonQuery.Proofs.Dataset.Flat
import JsonQuery.Proofs.Query.Selection

/-!
Asking the same query of its own answer. The rows that a query over all columns answers are
flat, so they make a dataset of their own. Every stage leaves them as they are: the condition
holds for each of them, the rows of a sorted list up to a limit are sorted, and the limit cuts
nothing off a second time. So the query answers them again.
-/

namespace JsonQuery

open Outcome Sorting

variable {rows : List Record}

section Stages

/-- A condition selects all of some rows that it has selected before. -/
theorem selectRows_again {condition : Option Condition} {selected part : List Record}
    (h : selectRows condition rows = .ok selected) (hpart : ∀ row ∈ part, row ∈ selected) :
    selectRows condition part = .ok part := by
  cases condition with
  | none => rfl
  | some c =>
      apply filterM_eq_self
      intro row hrow
      have hmem := hpart row hrow
      rw [selectRows_eq_ok h] at hmem
      exact toOption_eq_some.mp (beq_iff_eq.mp (List.mem_filter.mp hmem).2)

/-- The rows are in the order of a direction by a key. -/
def Direction.Orders {κ : Type} [LinearOrder κ] (direction : Direction) (key : Record → κ)
    (rows : List Record) : Prop :=
  match direction with
  | .ascending => Ascends key rows
  | .descending => Ascends key rows.reverse

variable {κ : Type} [LinearOrder κ] {key : Record → κ} {k : SortKey}

/-- The first rows of some that are in order are in order. -/
theorem Direction.Orders.take {direction : Direction} (h : direction.Orders key rows) (n : Nat) :
    direction.Orders key (rows.take n) := by
  cases direction with
  | ascending => exact Ascends.sublist h (List.take_sublist n rows)
  | descending => exact Ascends.sublist h (List.take_sublist n rows).reverse

/-- Where a key decides, sorting puts the rows with a value in the order of the key. -/
theorem sortRows_orders
    (hkey : Decides (fun a b : Record => (a.get k.column).before (b.get k.column)) key
      (· ∈ withValue k.column rows)) :
    ∃ sorted, sortRows (some k) rows = .ok (sorted ++ withoutValue k.column rows) ∧
      k.direction.Orders key sorted ∧ sorted.Perm (withValue k.column rows) := by
  obtain ⟨column, direction⟩ := k
  cases direction with
  | ascending =>
      obtain ⟨sorted, hsort, hup, hties⟩ := sort_stable hkey
      refine ⟨sorted, ?_, hup, hties.perm.symm⟩
      rw [sortRows_ascending, hsort, ok_bind]
  | descending =>
      obtain ⟨sorted, hsort, hdown, hties⟩ := sortDescending_stable hkey
      refine ⟨sorted, ?_, hdown, hties.perm.symm⟩
      rw [sortRows_descending, hsort, ok_bind]

/-- Rows with a value in order, and rows without one behind them, are sorted already. -/
theorem sortRows_of_orders {present missing : List Record}
    (hkey : Decides (fun a b : Record => (a.get k.column).before (b.get k.column)) key
      (· ∈ present))
    (horders : k.direction.Orders key present)
    (hpresent : ∀ row ∈ present, (row.get k.column).isNull = false)
    (hmissing : ∀ row ∈ missing, (row.get k.column).isNull = true) :
    sortRows (some k) (present ++ missing) = .ok (present ++ missing) := by
  obtain ⟨column, direction⟩ := k
  have hwith : withValue column (present ++ missing) = present := by
    unfold withValue
    rw [List.filter_append, List.filter_eq_self.mpr (by simpa using hpresent),
      List.filter_eq_nil_iff.mpr (by simpa using hmissing), List.append_nil]
  have hwithout : withoutValue column (present ++ missing) = missing := by
    unfold withoutValue
    rw [List.filter_append, List.filter_eq_nil_iff.mpr (by simpa using hpresent),
      List.filter_eq_self.mpr hmissing, List.nil_append]
  cases direction with
  | ascending =>
      rw [sortRows_ascending, hwith, hwithout, sort_of_ascends hkey horders, ok_bind]
  | descending =>
      rw [sortRows_descending, hwith, hwithout, sortDescending_of_ascends hkey horders, ok_bind]

/-- The first rows of some that were sorted by values of one kind are sorted already. -/
theorem sortRows_take {order : Option SortKey} {arranged : List Record}
    (hkind : ∀ k, order = some k → ∃ kind : ValueKind,
      ∀ row ∈ withValue k.column rows, kind.includes (row.get k.column) = true)
    (h : sortRows order rows = .ok arranged) (n : Nat) :
    sortRows order (arranged.take n) = .ok (arranged.take n) := by
  cases order with
  | none => rfl
  | some k =>
      obtain ⟨kind, hkind⟩ := hkind k rfl
      obtain ⟨κ, _, key, hkey⟩ := Value.exists_comparesBy kind
      have hdecides : Decides (fun a b : Record => (a.get k.column).before (b.get k.column))
          (fun row => key (row.get k.column)) (· ∈ withValue k.column rows) := by
        intro a b ha hb
        exact decides_before hkey a b (hkind a ha) (hkind b hb)
      obtain ⟨sorted, hsort, horders, hperm⟩ := sortRows_orders hdecides
      obtain rfl := Except.ok.inj (h.symm.trans hsort)
      rw [List.take_append]
      refine sortRows_of_orders ?_ (horders.take n) ?_ ?_
      · intro a b ha hb
        exact hdecides a b (hperm.mem_iff.mp (List.mem_of_mem_take ha))
          (hperm.mem_iff.mp (List.mem_of_mem_take hb))
      · intro row hrow
        simpa using (List.mem_filter.mp (hperm.mem_iff.mp (List.mem_of_mem_take hrow))).2
      · intro row hrow
        exact (List.mem_filter.mp (List.mem_of_mem_take hrow)).2

/-- A limit leaves the first rows, as many as there are to be. -/
theorem exists_limitRows_eq_take (limit : Option Nat) (rows : List Record) :
    ∃ n, limitRows limit rows = rows.take n := by
  cases limit with
  | none => exact ⟨rows.length, (List.take_length).symm⟩
  | some n => exact ⟨n, rfl⟩

/-- A limit cuts nothing off rows that it has cut before. -/
theorem limitRows_limitRows (limit : Option Nat) (rows : List Record) :
    limitRows limit (limitRows limit rows) = limitRows limit rows := by
  cases limit with
  | none => rfl
  | some n =>
      unfold limitRows
      dsimp only
      rw [List.take_take, min_self]

end Stages

variable {grouping : Bool} {q : Query} {r : QueryResult}

/-- The rows that a query selects are all of one kind where they have a value in the column
it sorts by. -/
def Query.SortsOneKind (q : Query) (rows : List Record) : Prop :=
  ∀ k, q.order = some k → ∃ kind : ValueKind, ∀ row ∈ rows,
    satisfies q.condition row = true → (row.get k.column).isNull = false →
      kind.includes (row.get k.column) = true

/-- A query over all columns answers rows that it was run over, and when it is run over its
answer it answers the same. -/
theorem run_again (hall : q.projection = .everything)
    (hplain : (q.isAggregate && grouping) = false) (hkind : q.SortsOneKind rows)
    (h : q.run grouping rows = .ok r) :
    (∀ row ∈ r.rows, row ∈ rows) ∧ q.run grouping r.rows = .ok r := by
  obtain ⟨selected, arranged, hselect, hsort, rfl⟩ := (run_eq_ok hplain).mp h
  have hselected := selectRows_eq_ok hselect
  have hshown (shown : List Record) : shown.map q.projection.apply = shown := by
    rw [hall]
    exact List.map_id shown
  rw [hshown]
  obtain ⟨n, hlimit⟩ := exists_limitRows_eq_take q.limit arranged
  have hmem : ∀ row ∈ limitRows q.limit arranged, row ∈ selected := by
    intro row hrow
    rw [hlimit] at hrow
    have hperm := (arranges_of_sorted hselect hsort).perm
    rw [← hselected] at hperm
    exact hperm.mem_iff.mp (List.mem_of_mem_take hrow)
  have hkinds : ∀ k, q.order = some k → ∃ kind : ValueKind,
      ∀ row ∈ withValue k.column selected, kind.includes (row.get k.column) = true := by
    intro k hk
    obtain ⟨kind, hkind⟩ := hkind k hk
    refine ⟨kind, fun row hrow => ?_⟩
    obtain ⟨hselectedRow, hvalue⟩ := List.mem_filter.mp hrow
    rw [hselected] at hselectedRow
    obtain ⟨hrow, hsatisfies⟩ := List.mem_filter.mp hselectedRow
    exact hkind row hrow hsatisfies (by simpa using hvalue)
  constructor
  · intro row hrow
    have hrow := hmem row hrow
    rw [hselected] at hrow
    exact List.mem_of_mem_filter hrow
  · refine (run_eq_ok hplain).mpr ⟨limitRows q.limit arranged, limitRows q.limit arranged,
      selectRows_again hselect hmem, ?_, ?_⟩
    · rw [hlimit]
      exact sortRows_take hkinds hsort n
    · rw [limitRows_limitRows, hshown]

/-- The answer of a query over all columns is closed under the query. If it has a row, and the
rows that are sorted have values of one kind, the rows of the answer make a dataset, and the
query over that dataset answers them again, each with its keys in their order. -/
theorem execute_again {raw : Value} {url : Option String} {d : Dataset} {text : String}
    (hd : Dataset.ofValue raw url = .ok d) (hparse : Query.parse text = .ok q)
    (hall : q.projection = .everything) (hplain : (q.isAggregate && grouping) = false)
    (hkind : q.SortsOneKind d.rows) (hrun : execute grouping (some d) text = .ok r)
    (hne : r.rows ≠ []) (url' : Option String) :
    ∃ again, Dataset.ofValue (rowsValue r.rows) url' = .ok again ∧
      execute grouping (some again) text = .ok r := by
  obtain ⟨rows, hrows, hrest⟩ := bind_eq_ok.mp hrun
  obtain ⟨_, ⟨⟩, hcontent⟩ := requireRows_eq_ok.mp hrows
  have hall' : d.rows = rows := by rw [Dataset.rows, hcontent]
  rw [hparse, ok_bind] at hrest
  rw [hall'] at hkind
  obtain ⟨hmem, hagain⟩ := run_again hall hplain hkind hrest
  have hflat : ∀ row ∈ r.rows, row.IsFlat := by
    intro row hrow
    exact Dataset.rows_isFlat hd row (hall' ▸ hmem row hrow)
  refine ⟨_, Dataset.ofValue_rowsValue hne hflat url', ?_⟩
  rw [execute, hparse]
  exact hagain

/-- A dataset with nested records, a bare number and a null is asked for its first rows in
descending order, and the three rows that come are asked again. -/
theorem execute_again_descending :
    let raw : Value := .array [
      .object [("n", .object [("a", .string "x")]), ("t", .array [.bool true, .null])], .ofInt 7,
      .object [("n", .object [("a", .string "y")]), ("t", .null)],
      .object [("t", .string "z"), ("n", .object [("a", .string "x")])]]
    let text := "SELECT * FROM data ORDER BY n_a DESC LIMIT 3;"
    let answer : List Record := [[("n_a", .string "y"), ("t", .null)],
      [("n_a", .string "x"), ("t", .string "true, null")],
      [("t", .string "z"), ("n_a", .string "x")]]
    ∃ d again, Dataset.ofValue raw none = .ok d ∧ execute true (some d) text = .ok ⟨answer, []⟩ ∧
      Dataset.ofValue (rowsValue answer) none = .ok again ∧
      execute true (some again) text = .ok ⟨answer, []⟩ := by
  intro raw text answer
  let rows : List Record := [[("n_a", .string "x"), ("t", .string "true, null")],
    [("value", .ofInt 7)], [("n_a", .string "y"), ("t", .null)],
    [("t", .string "z"), ("n_a", .string "x")]]
  let q : Query := { text := "SELECT * FROM data ORDER BY n_a DESC LIMIT 3;"
                     projection := .everything, source := some "data", condition := none
                     grouping := [], order := some ⟨"n_a", .descending⟩, limit := some 3
                     warnings := [] }
  have hd : Dataset.ofValue raw none = .ok ⟨raw, none, .ok rows⟩ := by cbv
  have hparse : Query.parse text = .ok q := by
    apply toOption_eq_some.mp
    decide +kernel
  have hrun : execute true (some ⟨raw, none, .ok rows⟩) text = .ok ⟨answer, []⟩ := by
    rw [execute, hparse]
    cbv
  have hkind : q.SortsOneKind rows := by
    rintro k ⟨⟩
    refine ⟨.text, ?_⟩
    decide
  have hne : answer ≠ [] := List.cons_ne_nil _ _
  obtain ⟨again, hagain, hsame⟩ := execute_again hd hparse rfl rfl hkind hrun hne none
  exact ⟨_, again, hd, hrun, hagain, hsame⟩

end JsonQuery
