import JsonQuery.Json.Reader
import JsonQuery.Proofs.Outcome
import JsonQuery.Proofs.Query.Grouping
import JsonQuery.Proofs.Value.Record
import JsonQuery.Query.Group
import Mathlib

/-!
Groups in one pass against groups one at a time. The pass keeps a group for each key met so
far. After any number of rows, each group it keeps is what its own rows alone have made of
it, and these are the classes of the rows taken in. One more row changes one group only, or
makes a new one behind the others, and so do the classes.
-/

namespace JsonQuery

open Outcome

variable {items : List SelectItem} {columns : List String} {rows : List Record}

/-- The tallies of the entries with a row taken in. -/
def takeIn (items : List SelectItem) (tallies : List Tally) (row : Record) :
    Except Fault (List Tally) :=
  (items.zip tallies).mapM fun p => p.1.gather p.2 row

/-- The tallies of the entries over some rows. -/
def talliesOf (items : List SelectItem) (rows : List Record) : Except Fault (List Tally) :=
  rows.foldlM (takeIn items) (items.map fun _ => Tally.empty)

/-- The row that the entries show of some rows, taken as one group. -/
def groupRow (items : List SelectItem) (rows : List Record) : Except Fault Record :=
  talliesOf items rows >>= fun tallies => Group.row items ⟨[], rows.head?, tallies⟩

/-- What the pass keeps of some rows of one group: the key and the value of the first one,
and the tallies over all of them. -/
structure Keeps (items : List SelectItem) (columns : List String) (rows : List Record)
    (g : Group) : Prop where
  first : g.first = rows.head?
  key : ∀ row, rows.head? = some row → g.key = groupKey columns row
  tallies : talliesOf items rows = .ok g.tallies

theorem gather_eq_ok {g g' : Group} {row : Record} :
    g.gather items row = .ok g' ↔
      ∃ tallies, takeIn items g.tallies row = .ok tallies ∧ g' = { g with tallies := tallies } := by
  rw [Group.gather, bind_eq_ok]
  constructor
  · rintro ⟨tallies, htallies, hg⟩
    exact ⟨tallies, htallies, (pure_eq_ok.mp hg).symm⟩
  · rintro ⟨tallies, htallies, rfl⟩
    exact ⟨tallies, htallies, rfl⟩

theorem talliesOf_concat {row : Record} {tallies : List Tally} :
    talliesOf items (rows ++ [row]) = .ok tallies ↔
      ∃ before, talliesOf items rows = .ok before ∧ takeIn items before row = .ok tallies := by
  rw [talliesOf, List.foldlM_append, bind_eq_ok]
  constructor
  · rintro ⟨before, hbefore, hrow⟩
    rw [List.foldlM_cons] at hrow
    obtain ⟨after, hafter, hdone⟩ := bind_eq_ok.mp hrow
    rw [← pure_eq_ok.mp hdone]
    exact ⟨before, hbefore, hafter⟩
  · rintro ⟨before, hbefore, hrow⟩
    refine ⟨before, hbefore, ?_⟩
    rw [List.foldlM_cons, hrow]
    rfl

/-- A group that has begun keeps a further row by taking it in. -/
theorem keeps_concat {first row : Record} {later : List Record} {g' : Group} :
    Keeps items columns (first :: later ++ [row]) g' ↔
      ∃ g, Keeps items columns (first :: later) g ∧ g.gather items row = .ok g' := by
  constructor
  · intro h
    obtain ⟨before, hbefore, hrow⟩ := talliesOf_concat.mp h.tallies
    exact ⟨{ g' with tallies := before }, ⟨h.first, h.key, hbefore⟩,
      gather_eq_ok.mpr ⟨g'.tallies, hrow, rfl⟩⟩
  · rintro ⟨g, hg, hrow⟩
    obtain ⟨tallies, htallies, rfl⟩ := gather_eq_ok.mp hrow
    exact ⟨hg.first, hg.key, talliesOf_concat.mpr ⟨g.tallies, hg.tallies, htallies⟩⟩

/-- A group begins by taking its first row in. -/
theorem keeps_singleton {row : Record} {g : Group} :
    Keeps items columns [row] g ↔
      Group.gather items ⟨groupKey columns row, some row, items.map fun _ => Tally.empty⟩ row =
        .ok g := by
  have hone : talliesOf items [row] = takeIn items (items.map fun _ => Tally.empty) row := by
    rw [talliesOf, List.foldlM_cons]
    exact bind_pure _
  rw [gather_eq_ok, ← hone]
  constructor
  · intro h
    refine ⟨g.tallies, h.tallies, ?_⟩
    obtain ⟨key, first, tallies⟩ := g
    rw [Group.mk.injEq]
    exact ⟨h.key row rfl, h.first, rfl⟩
  · rintro ⟨tallies, htallies, rfl⟩
    exact ⟨rfl, by rintro _ ⟨⟩; rfl, htallies⟩

/-- Taking a row into groups that are kept keeps the groups with the row inserted. -/
theorem addToGroups_keeps {row : Record} {groups : List (List Record)} {kept' : List Group}
    (hgroups : ∀ group ∈ groups, group ≠ []) :
    (∃ kept, List.Forall₂ (Keeps items columns) groups kept ∧
        addToGroups items (groupKey columns row) row kept = .ok kept') ↔
      List.Forall₂ (Keeps items columns) (insertRow columns row groups) kept' := by
  induction groups generalizing kept' with
  | nil =>
      rw [insertRow, List.forall₂_cons_left_iff]
      constructor
      · rintro ⟨_, ⟨⟩, hadd⟩
        obtain ⟨g, hg, hkept⟩ := bind_eq_ok.mp hadd
        exact ⟨g, [], keeps_singleton.mpr hg, .nil, (pure_eq_ok.mp hkept).symm⟩
      · rintro ⟨g, rest, hg, hrest, rfl⟩
        rw [List.forall₂_nil_left_iff.mp hrest]
        exact ⟨[], .nil, bind_eq_ok.mpr ⟨g, keeps_singleton.mp hg, rfl⟩⟩
  | cons group groups ih =>
      obtain ⟨first, later, rfl⟩ :=
        List.exists_cons_of_ne_nil (hgroups group List.mem_cons_self)
      have hothers : ∀ other ∈ groups, other ≠ [] := fun other hother =>
        hgroups other (List.mem_cons_of_mem _ hother)
      have htest {g : Group} (hg : Keeps items columns (first :: later) g) :
          sameGroup g.key (groupKey columns row) = sameKey columns first row := by
        rw [hg.key first rfl, sameKey]
      rw [insertRow, List.head?_cons, Option.any_some]
      cases hsame : sameKey columns first row with
      | true =>
          rw [if_pos rfl, List.forall₂_cons_left_iff]
          constructor
          · rintro ⟨_, hkeeps, hadd⟩
            obtain ⟨g, kept, hg, hkept, rfl⟩ := List.forall₂_cons_left_iff.mp hkeeps
            rw [addToGroups, htest hg, hsame, if_pos rfl] at hadd
            obtain ⟨g', hgather, hdone⟩ := bind_eq_ok.mp hadd
            exact ⟨g', kept, keeps_concat.mpr ⟨g, hg, hgather⟩, hkept, (pure_eq_ok.mp hdone).symm⟩
          · rintro ⟨g', kept, hg', hkept, rfl⟩
            obtain ⟨g, hg, hgather⟩ := keeps_concat.mp hg'
            refine ⟨g :: kept, .cons hg hkept, ?_⟩
            rw [addToGroups, htest hg, hsame, if_pos rfl]
            exact bind_eq_ok.mpr ⟨g', hgather, rfl⟩
      | false =>
          rw [if_neg Bool.false_ne_true, List.forall₂_cons_left_iff]
          constructor
          · rintro ⟨_, hkeeps, hadd⟩
            obtain ⟨g, kept, hg, hkept, rfl⟩ := List.forall₂_cons_left_iff.mp hkeeps
            rw [addToGroups, htest hg, hsame, if_neg Bool.false_ne_true] at hadd
            obtain ⟨rest, hrest, hdone⟩ := bind_eq_ok.mp hadd
            exact ⟨g, rest, hg, (ih hothers).mp ⟨kept, hkept, hrest⟩, (pure_eq_ok.mp hdone).symm⟩
          · rintro ⟨g, rest, hg, hinserted, rfl⟩
            obtain ⟨kept, hkept, hrest⟩ := (ih hothers).mpr hinserted
            refine ⟨g :: kept, .cons hg hkept, ?_⟩
            rw [addToGroups, htest hg, hsame, if_neg Bool.false_ne_true]
            exact bind_eq_ok.mpr ⟨rest, hrest, rfl⟩

/-- The pass keeps the classes of the rows taken in, and fails only if one of them does. -/
theorem groupsOf_keeps {kept : List Group} :
    groupsOf items columns rows = .ok kept ↔
      List.Forall₂ (Keeps items columns) (classes columns rows) kept := by
  induction rows using List.reverseRecOn generalizing kept with
  | nil =>
      rw [classes, List.forall₂_nil_left_iff]
      exact pure_eq_ok.trans eq_comm
  | append_singleton rows row ih =>
      rw [classes_concat, ← addToGroups_keeps fun _ => classes_ne_nil, groupsOf,
        List.foldlM_append, bind_eq_ok]
      refine exists_congr fun before => and_congr ih ?_
      rw [List.foldlM_cons]
      exact iff_of_eq (congrArg (· = _) (bind_pure _))

/-- The rows of each group; without grouping columns there is one group even without rows. -/
def rowGroups (columns : List String) (rows : List Record) : List (List Record) :=
  if rows.isEmpty && columns.isEmpty then [[]] else classes columns rows

/-- What is kept of some rows shows the row of their group. -/
theorem groupRow_eq_ok {group : List Record} {row : Record} :
    groupRow items group = .ok row ↔
      ∃ g, Keeps items columns group g ∧ g.row items = .ok row := by
  rw [groupRow, bind_eq_ok]
  constructor
  · rintro ⟨tallies, htallies, hrow⟩
    refine ⟨⟨groupKey columns (group.head?.getD []), group.head?, tallies⟩, ⟨rfl, ?_, htallies⟩,
      hrow⟩
    intro first hfirst
    rw [hfirst, Option.getD_some]
  · rintro ⟨g, hg, hrow⟩
    refine ⟨g.tallies, hg.tallies, ?_⟩
    rw [← hg.first]
    exact hrow

/-- Groups are kept unless there are no rows. -/
theorem isEmpty_of_keeps {kept : List Group}
    (hkept : List.Forall₂ (Keeps items columns) (classes columns rows) kept) :
    kept.isEmpty = rows.isEmpty := by
  cases rows with
  | nil =>
      rw [classes] at hkept
      rw [List.forall₂_nil_left_iff.mp hkept]
      rfl
  | cons row rows =>
      rw [classes_cons] at hkept
      obtain ⟨g, rest, -, -, rfl⟩ := List.forall₂_cons_left_iff.mp hkept
      rfl

/-- Without rows and without grouping columns the group of no rows is shown. -/
theorem aggregate_no_rows {out : List Record} :
    aggregate items [] [] = .ok out ↔
      List.Forall₂ (fun group row => groupRow items group = .ok row) [[]] out := by
  have hshown : aggregate items [] [] =
      [(⟨[], none, items.map fun _ => Tally.empty⟩ : Group)].mapM (Group.row items) := rfl
  have hrow : groupRow items [] =
      Group.row items ⟨[], none, items.map fun _ => Tally.empty⟩ := rfl
  rw [hshown, mapM_eq_ok, List.forall₂_cons_left_iff, List.forall₂_cons_left_iff, hrow]
  simp only [List.forall₂_nil_left_iff]

/-- Groups in one pass are the groups one at a time. -/
theorem aggregate_eq_ok {out : List Record} :
    aggregate items columns rows = .ok out ↔
      List.Forall₂ (fun group row => groupRow items group = .ok row) (rowGroups columns rows)
        out := by
  unfold rowGroups
  split
  · rename_i hnone
    obtain ⟨hrows, hcolumns⟩ := Bool.and_eq_true_iff.mp hnone
    obtain rfl := List.isEmpty_iff.mp hrows
    obtain rfl := List.isEmpty_iff.mp hcolumns
    exact aggregate_no_rows
  · rename_i hsome
    have hcomp : (∃ kept, List.Forall₂ (Keeps items columns) (classes columns rows) kept ∧
        List.Forall₂ (fun g row => g.row items = .ok row) kept out) ↔
          List.Forall₂ (fun group row => groupRow items group = .ok row) (classes columns rows)
            out := by
      rw [forall₂_comp]
      simp only [← groupRow_eq_ok]
    rw [← hcomp, aggregate, bind_eq_ok]
    refine exists_congr fun kept => ?_
    rw [groupsOf_keeps]
    refine and_congr_right fun hkept => ?_
    rw [isEmpty_of_keeps hkept, if_neg hsome, mapM_eq_ok]

/-- Without grouping columns all rows are one group. -/
theorem rowGroups_nil (rows : List Record) : rowGroups [] rows = [rows] := by
  cases rows with
  | nil => rfl
  | cons row rows => exact classes_no_columns row rows

/-- The rows of a group, taken without grouping columns, show the row of the group and
nothing else. -/
theorem aggregate_no_columns {group : List Record} {row : Record} :
    aggregate items [] group = .ok [row] ↔ groupRow items group = .ok row := by
  rw [aggregate_eq_ok, rowGroups_nil, List.forall₂_cons]
  exact and_iff_left .nil

theorem rowGroups_grouped (columns : List String) (rows : List Record) :
    Grouped columns rows (rowGroups columns rows) := by
  unfold rowGroups
  split
  · rename_i hnone
    obtain rfl := List.isEmpty_iff.mp (Bool.and_eq_true_iff.mp hnone).1
    have hno {group : List Record} {row : Record} (hgroup : group ∈ [([] : List Record)])
        (hrow : row ∈ group) : False := by
      rw [List.mem_singleton.mp hgroup] at hrow
      exact List.not_mem_nil hrow
    exact ⟨.nil, fun _ hgroup _ hrow => (hno hgroup hrow).elim,
      fun _ hgroup _ hrow => (hno hgroup hrow).elim, List.pairwise_singleton _ _, .slnil⟩
  · exact classes_grouped columns rows

/-- The tally of an entry is what the rows alone have made of it. -/
theorem talliesOf_each {tallies : List Tally} (h : talliesOf items rows = .ok tallies) :
    List.Forall₂ (fun item t => rows.foldlM item.gather Tally.empty = .ok t) items tallies := by
  induction rows using List.reverseRecOn generalizing tallies with
  | nil =>
      rw [← pure_eq_ok.mp h]
      exact List.forall₂_map_right_iff.mpr (List.forall₂_same.mpr fun _ _ => rfl)
  | append_singleton rows row ih =>
      obtain ⟨before, hbefore, hrow⟩ := talliesOf_concat.mp h
      have hsteps := mapM_eq_ok.mp hrow
      have hall := ih hbefore
      clear h hbefore hrow ih
      induction hall generalizing tallies with
      | nil =>
          rw [List.forall₂_nil_left_iff.mp hsteps]
          exact .nil
      | cons hitem _ ih =>
          rw [List.zip_cons_cons] at hsteps
          obtain ⟨t, rest, ht, hrest, rfl⟩ := List.forall₂_cons_left_iff.mp hsteps
          refine .cons ?_ (ih hrest)
          rw [List.foldlM_append, hitem, ok_bind, List.foldlM_cons, ht]
          rfl

/-- Counting rows counts them all. -/
theorem foldlM_gather_rows {item : SelectItem} {label : Option String}
    (hcount : item.shape = .aggregate .count .rows label) (rows : List Record) (t : Tally) :
    rows.foldlM item.gather t = .ok { t with count := t.count + rows.length } := by
  induction rows generalizing t with
  | nil => rfl
  | cons row rows ih =>
      have hgather : item.gather t row = .ok { t with count := t.count + 1 } := by
        rw [SelectItem.gather, hcount]
        rfl
      rw [List.foldlM_cons, hgather, ok_bind, ih, List.length_cons]
      dsimp only
      rw [Nat.add_assoc, Nat.add_comm 1]

/-- An entry writes under its own name only. -/
theorem get?_show {item : SelectItem} {first : Option Record} {t : Tally} {output row : Record}
    {name : String} (hname : item.outputName ≠ name)
    (h : item.show first t output = .ok row) : row.get? name = output.get? name := by
  unfold SelectItem.show at h
  split at h
  · obtain ⟨v, -, hrow⟩ := bind_eq_ok.mp h
    rw [← pure_eq_ok.mp hrow, Record.get?_put, if_neg hname]
  · split at h
    · rw [← pure_eq_ok.mp h, Record.get?_put, if_neg hname]
    · rw [pure_eq_ok.mp h]

/-- Entries with other names leave what is written under a name. -/
theorem get?_foldlM_show {entries : List (SelectItem × Tally)} {first : Option Record}
    {output row : Record} {name : String} (hnames : ∀ p ∈ entries, p.1.outputName ≠ name)
    (h : entries.foldlM (fun output p => p.1.show first p.2 output) output = .ok row) :
    row.get? name = output.get? name := by
  induction entries generalizing output with
  | nil => rw [pure_eq_ok.mp h]
  | cons p entries ih =>
      rw [List.foldlM_cons] at h
      obtain ⟨next, hnext, hrest⟩ := bind_eq_ok.mp h
      rw [ih (fun q hq => hnames q (List.mem_cons_of_mem _ hq)) hrest,
        get?_show (hnames p List.mem_cons_self) hnext]

/-- An entry of a list has its tally in its place. -/
theorem exists_zip_eq {P : SelectItem → Tally → Prop} {before after : List SelectItem}
    {item : SelectItem} {tallies : List Tally}
    (h : List.Forall₂ P (before ++ item :: after) tallies) :
    ∃ earlier t later, (before ++ item :: after).zip tallies = earlier ++ (item, t) :: later ∧
      P item t ∧ ∀ p ∈ later, p.1 ∈ after := by
  induction before generalizing tallies with
  | nil =>
      obtain ⟨t, rest, ht, -, rfl⟩ := List.forall₂_cons_left_iff.mp h
      exact ⟨[], t, after.zip rest, rfl, ht, fun p hp => (List.of_mem_zip hp).1⟩
  | cons one before ih =>
      obtain ⟨t, rest, -, hrest, rfl⟩ := List.forall₂_cons_left_iff.mp h
      obtain ⟨earlier, u, later, hzip, hu, hlater⟩ := ih hrest
      refine ⟨(one, t) :: earlier, u, later, ?_, hu, hlater⟩
      rw [List.cons_append, List.zip_cons_cons, hzip, List.cons_append]

/-- The row of a group has under the name of an entry what the entry alone has made of the
rows, unless a later entry has the same name. -/
theorem exists_show {before after : List SelectItem} {item : SelectItem} {row : Record}
    (hlast : ∀ later ∈ after, later.outputName ≠ item.outputName)
    (h : groupRow (before ++ item :: after) rows = .ok row) :
    ∃ t output shown, rows.foldlM item.gather Tally.empty = .ok t ∧
      item.show rows.head? t output = .ok shown ∧
      row.get? item.outputName = shown.get? item.outputName := by
  obtain ⟨tallies, htallies, hrow⟩ := bind_eq_ok.mp h
  obtain ⟨earlier, t, later, hzip, ht, hlater⟩ := exists_zip_eq (talliesOf_each htallies)
  rw [Group.row, hzip, List.foldlM_append] at hrow
  obtain ⟨output, -, hitem⟩ := bind_eq_ok.mp hrow
  rw [List.foldlM_cons] at hitem
  obtain ⟨shown, hshown, hrest⟩ := bind_eq_ok.mp hitem
  have hkept := get?_foldlM_show (fun p hp => hlast p.1 (hlater p hp)) hrest
  exact ⟨t, output, shown, ht, hshown, hkept⟩

/-- Counting rows shows the number of rows in the row of their group, unless a later entry has
the same name. -/
theorem get?_groupRow_count {before after : List SelectItem} {item : SelectItem}
    {label : Option String} {row : Record} (hcount : item.shape = .aggregate .count .rows label)
    (hlast : ∀ later ∈ after, later.outputName ≠ item.outputName)
    (h : groupRow (before ++ item :: after) rows = .ok row) :
    row.get? item.outputName = some (Value.ofInt rows.length) := by
  obtain ⟨t, output, shown, ht, hshown, hrow⟩ := exists_show hlast h
  have hlength : t.count = rows.length := by
    rw [foldlM_gather_rows hcount] at ht
    rw [← Except.ok.inj ht]
    exact Nat.zero_add _
  have hfunction : item.function? = some .count := by rw [SelectItem.function?, hcount]
  rw [SelectItem.show, hfunction] at hshown
  rw [hrow, ← pure_eq_ok.mp hshown, Record.get?_put, if_pos rfl, hlength]

end JsonQuery
