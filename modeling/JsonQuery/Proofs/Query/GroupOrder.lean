import JsonQuery.Proofs.Query.Again
import JsonQuery.Proofs.Query.ColumnName

/-!
The order of groups. Groups are sorted by what their rows show, and a row shows its entries under
their names. So sorting by a grouping column orders the groups by their values of that column if
the column is shown under its own name, whatever else is shown. If nothing is shown under that
name, there is nothing to sort by, and the groups stay in the order of their first rows.
-/

namespace JsonQuery

open Outcome Sorting

section Carried

variable {α κ : Type} [LinearOrder κ] {key : Record → κ} {rank : α → κ} {xs ys : List α}
  {f g : α → Record} {less : Record → Record → Except Fault Bool}

theorem sameTies_map (hrank : ∀ x ∈ xs, key (g x) = rank x) (h : SameTies rank xs ys) :
    SameTies key (xs.map g) (ys.map g) := by
  have hfilter (zs : List α) (hzs : ∀ x ∈ zs, key (g x) = rank x) (k : κ) :
      ((zs.map g).filter fun row => key row = k) = (zs.filter fun x => rank x = k).map g := by
    rw [List.filter_map]
    refine congrArg (List.map g) (List.filter_congr fun x hx => ?_)
    simp [hzs x hx]
  intro k
  rw [hfilter xs hrank, hfilter ys fun x hx => hrank x (h.mem_iff.mpr hx), h k]

theorem ascends_map (hrank : ∀ x ∈ ys, key (g x) = rank x) (h : Ascends rank ys) :
    Ascends key (ys.map g) := by
  refine List.pairwise_map.mpr (List.Pairwise.imp_of_mem ?_ h)
  intro x y hx hy hle
  rwa [hrank x hx, hrank y hy]

/-- Sorting the rows of some things sorts the things. -/
theorem sort_map (hrank : ∀ x ∈ xs, key (g x) = rank x)
    (hless : Decides less key (· ∈ xs.map g)) :
    ∃ sorted : List α, sort less (xs.map g) = .ok (sorted.map g) ∧ Ascends rank sorted ∧
      SameTies rank xs sorted := by
  have hthings : Decides (fun x y => less (g x) (g y)) rank (· ∈ xs) := by
    intro x y hx hy
    rw [← hrank x hx, ← hrank y hy]
    exact hless _ _ (List.mem_map_of_mem hx) (List.mem_map_of_mem hy)
  obtain ⟨sorted, -, hup, hties⟩ := sort_stable hthings
  obtain ⟨out, hsort, hupOut, htiesOut⟩ := sort_stable hless
  have hupMap := ascends_map (fun x hx => hrank x (hties.mem_iff.mpr hx)) hup
  have hsame : out = sorted.map g :=
    hupOut.eq_of_sameTies hupMap (htiesOut.symm.trans (sameTies_map hrank hties))
  exact ⟨sorted, hsame ▸ hsort, hup, hties⟩

theorem sortDescending_map (hrank : ∀ x ∈ xs, key (g x) = rank x)
    (hless : Decides less key (· ∈ xs.map g)) :
    ∃ sorted : List α, sortDescending less (xs.map g) = .ok (sorted.map g) ∧
      Ascends rank sorted.reverse ∧ SameTies rank xs sorted := by
  have hreversed : Decides less key (· ∈ xs.reverse.map g) := by
    intro a b ha hb
    rw [List.map_reverse, List.mem_reverse] at ha hb
    exact hless a b ha hb
  obtain ⟨sorted, hsort, hup, hties⟩ :=
    sort_map (fun x hx => hrank x (List.mem_reverse.mp hx)) hreversed
  refine ⟨sorted.reverse, ?_, ?_, ?_⟩
  · rw [sortDescending, ← List.map_reverse, hsort, ok_bind, ← List.map_reverse]
    rfl
  · rwa [List.reverse_reverse]
  · simpa using hties.reverse

/-- Sorting in a direction. -/
def Direction.sort (direction : Direction) (less : Record → Record → Except Fault Bool)
    (rows : List Record) : Except Fault (List Record) :=
  match direction with
  | .ascending => Sorting.sort less rows
  | .descending => Sorting.sortDescending less rows

theorem direction_sort_map (hrank : ∀ x ∈ xs, key (g x) = rank x)
    (hless : Decides less key (· ∈ xs.map g)) (direction : Direction) :
    ∃ sorted : List α, direction.sort less (xs.map g) = .ok (sorted.map g) ∧
      (sorted.Pairwise fun x y => ∀ o : Ordering,
        o.Compares (rank x) (rank y) → direction.admits o) ∧
      SameTies rank xs sorted := by
  cases direction with
  | ascending =>
      obtain ⟨sorted, hsort, hup, hties⟩ := sort_map hrank hless
      refine ⟨sorted, hsort, hup.imp ?_, hties⟩
      rintro x y hle o ho rfl
      exact absurd hle (not_le_of_gt (ho.eq_gt.mp rfl))
  | descending =>
      obtain ⟨sorted, hsort, hdown, hties⟩ := sortDescending_map hrank hless
      refine ⟨sorted, hsort, (List.pairwise_reverse.mp hdown).imp ?_, hties⟩
      rintro x y hle o ho rfl
      exact absurd hle (not_le_of_gt (ho.eq_lt.mp rfl))

theorem sortRows_eq (k : SortKey) (rows : List Record) :
    sortRows (some k) rows =
      (k.direction.sort (fun a b => (a.get k.column).before (b.get k.column))
        (withValue k.column rows) >>= fun sorted => .ok (sorted ++ withoutValue k.column rows)) := by
  obtain ⟨column, direction⟩ := k
  cases direction with
  | ascending | descending => rfl

variable {column : String} {valueKey : Value → κ} {S : Value → Prop}

theorem withValue_map (hsame : ∀ x ∈ xs, (g x).get column = (f x).get column) :
    withValue column (xs.map g) = (xs.filter fun x => !((f x).get column).isNull).map g := by
  rw [withValue, List.filter_map]
  refine congrArg (List.map g) (List.filter_congr fun x hx => ?_)
  simp [hsame x hx]

theorem withoutValue_map (hsame : ∀ x ∈ xs, (g x).get column = (f x).get column) :
    withoutValue column (xs.map g) = (xs.filter fun x => ((f x).get column).isNull).map g := by
  rw [withoutValue, List.filter_map]
  refine congrArg (List.map g) (List.filter_congr fun x hx => ?_)
  simp [hsame x hx]

/-- Sorting the rows of some things by a column moves the things by their values in it, whatever
else the rows hold: other rows with the same values are sorted with them. -/
theorem sortRows_map (hkey : Value.ComparesBy valueKey S)
    (hsame : ∀ x ∈ xs, (g x).get column = (f x).get column)
    (hvalues : ∀ row ∈ withValue column (xs.map f), S (row.get column)) (direction : Direction) :
    ∃ (arranged : List α) (sorted : List Record), arranged.Perm xs ∧
      sortRows (some ⟨column, direction⟩) (xs.map g) = .ok (arranged.map g) ∧
      arranged.map f = sorted ++ withoutValue column (xs.map f) ∧
      StablySorted ⟨column, direction⟩ (xs.map f) sorted := by
  let present := xs.filter fun x => !((f x).get column).isNull
  have hpresent : withValue column (xs.map f) = present.map f := withValue_map fun _ _ => rfl
  have hrank : ∀ x ∈ present, valueKey ((g x).get column) = valueKey ((f x).get column) :=
    fun x hx => congrArg valueKey (hsame x (List.mem_of_mem_filter hx))
  have hless : Decides (fun a b : Record => (a.get column).before (b.get column))
      (fun row => valueKey (row.get column)) (· ∈ present.map g) := by
    have hvalue : ∀ row ∈ present.map g, S (row.get column) := by
      intro row hrow
      obtain ⟨x, hx, rfl⟩ := List.mem_map.mp hrow
      rw [hsame x (List.mem_of_mem_filter hx)]
      apply hvalues
      rw [hpresent]
      exact List.mem_map_of_mem hx
    intro a b ha hb
    exact decides_before hkey a b (hvalue a ha) (hvalue b hb)
  obtain ⟨sorted, hsort, horder, hties⟩ := direction_sort_map hrank hless direction
  refine ⟨sorted ++ xs.filter fun x => ((f x).get column).isNull, sorted.map f, ?_, ?_, ?_, ?_⟩
  · exact (hties.perm.symm.append_right _).trans
      (List.perm_append_comm.trans (List.filter_append_perm _ _))
  · rw [sortRows_eq, withValue_map hsame, hsort, ok_bind, withoutValue_map hsame, List.map_append]
  · rw [List.map_append, withoutValue_map fun _ _ => rfl]
  · refine stablySorted hkey hvalues (List.pairwise_map.mpr horder) ?_
    rw [hpresent]
    exact sameTies_map (fun _ _ => rfl) hties

end Carried

section Shown

variable {items : List SelectItem} {column : String} {group : List Record} {row : Record}

/-- What is shown under the name of a column is the column itself. -/
def ShownAsItself (column : String) (items : List SelectItem) : Prop :=
  ∀ item ∈ items, item.outputName = column → item.function? = none ∧ item.columnOrText = column

instance (column : String) (items : List SelectItem) : Decidable (ShownAsItself column items) :=
  inferInstanceAs (Decidable (∀ item ∈ items, _ → _))

/-- Entries with the name of a column write what the first row has in it, and nothing if it has
no such key. -/
theorem get?_foldlM_show_itself {entries : List (SelectItem × Tally)} {first : Option Record}
    {output : Record} (hitself : ShownAsItself column (entries.map Prod.fst))
    (hbefore : output.get? column = none ∨
      output.get? column = first.bind fun row => row.get? column)
    (h : entries.foldlM (fun output p => p.1.show first p.2 output) output = .ok row) :
    row.get? column =
      if entries.any fun p => p.1.outputName == column then first.bind fun row => row.get? column
      else output.get? column := by
  induction entries generalizing output with
  | nil =>
      rw [← pure_eq_ok.mp h]
      rfl
  | cons p entries ih =>
      obtain ⟨hfirst, hlater⟩ := List.forall_mem_cons.mp hitself
      rw [List.foldlM_cons] at h
      obtain ⟨next, hshow, hrest⟩ := bind_eq_ok.mp h
      rw [List.any_cons]
      by_cases hname : p.1.outputName = column
      · have hnext : next.get? column = first.bind fun row => row.get? column := by
          obtain ⟨hfunction, hcolumn⟩ := hfirst hname
          rw [SelectItem.show, hfunction, hcolumn] at hshow
          cases hvalue : first.bind fun row => row.get? column with
          | some v =>
              rw [hvalue] at hshow
              rw [← pure_eq_ok.mp hshow, Record.get?_put, if_pos hname]
          | none =>
              rw [hvalue] at hshow hbefore
              rw [← pure_eq_ok.mp hshow]
              exact hbefore.elim id id
        rw [ih hlater (.inr hnext) hrest, hnext, ite_self, beq_iff_eq.mpr hname, Bool.true_or,
          if_pos rfl]
      · have hnext := get?_show hname hshow
        rw [ih hlater (hnext ▸ hbefore) hrest, hnext, beq_eq_false_iff_ne.mpr hname,
          Bool.false_or]

/-- The row of a group has in a column what the first row of the group has, if the column is
shown, and nothing if nothing is shown under its name. -/
theorem get?_groupRow_itself (hitself : ShownAsItself column items)
    (h : groupRow items group = .ok row) :
    row.get? column =
      if items.any fun item => item.outputName == column then
        group.head?.bind fun row => row.get? column
      else none := by
  obtain ⟨tallies, htallies, hrow⟩ := bind_eq_ok.mp h
  have hlength : items.length ≤ tallies.length := (talliesOf_each htallies).length_eq.le
  have hfst : (items.zip tallies).map Prod.fst = items := List.map_fst_zip hlength
  have hany : ((items.zip tallies).any fun p => p.1.outputName == column) =
      items.any fun item => item.outputName == column := by
    conv_rhs => rw [← hfst, List.any_map]
    rfl
  rw [get?_foldlM_show_itself (by rwa [hfst]) (.inl rfl) hrow, hany]
  rfl

end Shown

section Groups

variable {q : Query} {k : SortKey} {column : String} {rows out : List Record}

def firstRow (group : List Record) : Record := group.head?.getD []

/-- The row that a query shows of a group. -/
def Query.shownRow (q : Query) (group : List Record) : Record :=
  (groupRow q.groupItems group).toOption.getD []

/-- A query answers the rows of some groups, up to its limit. -/
def Query.AnswersGroups (q : Query) (rows : List Record) (groups : List (List Record)) : Prop :=
  ∃ shown,
    List.Forall₂ (fun group row => aggregate q.groupItems [] group = .ok [row]) groups shown ∧
    q.run true rows = .ok ⟨limitRows q.limit shown, q.warnings⟩

/-- Groups in the order of their values: those with a value in the column are stably sorted, and
those without one stand behind them. -/
structure GroupsInOrder (k : SortKey) (groups arranged : List (List Record)) : Prop where
  perm : arranged.Perm groups
  sorted : ∃ sorted, arranged.map firstRow = sorted ++ withoutValue k.column (groups.map firstRow) ∧
    StablySorted k (groups.map firstRow) sorted

/-- A query over groups shows a column under its own name, and nothing else under that name. -/
def Query.ShowsColumn (q : Query) (column : String) : Prop :=
  ShownAsItself column q.groupItems ∧ ∃ item ∈ q.groupItems, item.outputName = column

instance (q : Query) (column : String) : Decidable (q.ShowsColumn column) :=
  inferInstanceAs (Decidable (_ ∧ _))

theorem showsColumn_of_everything (hall : q.projection = .everything)
    (hcolumn : column ∈ q.grouping) : q.ShowsColumn column := by
  have hitem (name : String) :
      (⟨name, .column name none⟩ : SelectItem).columnOrText = name := by
    simp [SelectItem.columnOrText, SelectItem.column?]
  have hitems : q.groupItems = q.grouping.map fun name => ⟨name, .column name none⟩ := by
    rw [Query.groupItems, hall]
  rw [Query.ShowsColumn, hitems]
  constructor
  · intro item hmem hname
    obtain ⟨name, -, rfl⟩ := List.mem_map.mp hmem
    exact ⟨rfl, hname⟩
  · exact ⟨_, List.mem_map_of_mem hcolumn, hitem column⟩

/-- A query over groups runs to the sorted rows of its groups. -/
theorem run_groups (haggregate : q.isAggregate = true)
    (hgroups : selectRows q.condition rows >>= aggregate q.groupItems q.grouping = .ok out) :
    q.run true rows =
      (sortRows q.order out).map fun sorted => ⟨limitRows q.limit sorted, q.warnings⟩ := by
  obtain ⟨selected, hselect, hout⟩ := bind_eq_ok.mp hgroups
  rw [Query.run, hselect, ok_bind, haggregate]
  simp only [Bool.and_self, if_true]
  rw [hout, ok_bind]
  cases sortRows q.order out <;> rfl

theorem shownRow_spec
    (hgroups : selectRows q.condition rows >>= aggregate q.groupItems q.grouping = .ok out) :
    out = (q.groups rows).map q.shownRow ∧
      ∀ group ∈ q.groups rows, groupRow q.groupItems group = .ok (q.shownRow group) := by
  obtain ⟨selected, hselect, hout⟩ := bind_eq_ok.mp hgroups
  have hrows := aggregate_eq_ok.mp hout
  rw [selectRows_eq_ok hselect, ← Query.groups] at hrows
  have hshown {group : List Record} {row : Record} (h : groupRow q.groupItems group = .ok row) :
      row = q.shownRow group := by
    rw [Query.shownRow, h]
    rfl
  clear hgroups hout
  generalize q.groups rows = groups at hrows ⊢
  induction hrows with
  | nil => exact ⟨rfl, fun _ h => nomatch h⟩
  | cons h _ ih =>
      obtain rfl := hshown h
      exact ⟨congrArg _ ih.1, List.forall_mem_cons.mpr ⟨h, ih.2⟩⟩

/-- The rows shown of some of the groups are those that each group shows alone. -/
theorem answersGroups_of_run {groups : List (List Record)}
    (hrows : ∀ group ∈ groups, groupRow q.groupItems group = .ok (q.shownRow group))
    (hrun : q.run true rows = .ok ⟨limitRows q.limit (groups.map q.shownRow), q.warnings⟩) :
    q.AnswersGroups rows groups := by
  refine ⟨groups.map q.shownRow, ?_, hrun⟩
  rw [List.forall₂_map_right_iff, List.forall₂_same]
  exact fun group hgroup => aggregate_no_columns.mpr (hrows group hgroup)

/-- What is shown of a group in a column is what its first row has in it. -/
theorem get_shownRow (hshows : q.ShowsColumn column) {group : List Record}
    (hrow : groupRow q.groupItems group = .ok (q.shownRow group)) :
    (q.shownRow group).get column = (firstRow group).get column := by
  obtain ⟨hitself, item, hitem, hname⟩ := hshows
  have hany : (q.groupItems.any fun item => item.outputName == column) = true :=
    List.any_eq_true.mpr ⟨item, hitem, beq_iff_eq.mpr hname⟩
  rw [Record.get, get?_groupRow_itself hitself hrow, if_pos hany, firstRow]
  cases group.head? <;> rfl

theorem selected_of_groups {group : List Record} (hgroup : group ∈ q.groups rows) {row : Record}
    (hrow : row ∈ group) : row ∈ rows ∧ satisfies q.condition row = true := by
  have hgrouped := rowGroups_grouped q.grouping (rows.filter (satisfies q.condition))
  exact List.mem_filter.mp (hgrouped.exhaust.mem_iff.mp (List.mem_flatten_of_mem hgroup hrow))

theorem selected_of_withValue_groups {row : Record}
    (h : row ∈ withValue column ((q.groups rows).map firstRow)) :
    row ∈ rows ∧ satisfies q.condition row = true ∧ (row.get column).isNull = false := by
  obtain ⟨hmem, hvalue⟩ := List.mem_filter.mp h
  obtain ⟨group, hgroup, rfl⟩ := List.mem_map.mp hmem
  rw [Bool.not_eq_true'] at hvalue
  cases group with
  | nil => nomatch hvalue
  | cons first later =>
      obtain ⟨hrow, hsatisfies⟩ := selected_of_groups hgroup List.mem_cons_self
      exact ⟨hrow, hsatisfies, hvalue⟩

theorem run_shows_column (haggregate : q.isAggregate = true) (horder : q.order = some k)
    (hkind : q.SortsOneKind rows)
    (hgroups : selectRows q.condition rows >>= aggregate q.groupItems q.grouping = .ok out)
    (hshows : q.ShowsColumn k.column) :
    ∃ arranged, GroupsInOrder k (q.groups rows) arranged ∧ q.AnswersGroups rows arranged := by
  obtain ⟨rfl, hrows⟩ := shownRow_spec hgroups
  obtain ⟨kind, hkind⟩ := hkind k horder
  obtain ⟨κ, _, key, hkey⟩ := Value.exists_comparesBy kind
  have hsame : ∀ group ∈ q.groups rows,
      (q.shownRow group).get k.column = (firstRow group).get k.column :=
    fun group hgroup => get_shownRow hshows (hrows group hgroup)
  have hvalues : ∀ row ∈ withValue k.column ((q.groups rows).map firstRow),
      kind.includes (row.get k.column) = true := by
    intro row hrow
    obtain ⟨hmem, hsatisfies, hvalue⟩ := selected_of_withValue_groups hrow
    exact hkind row hmem hsatisfies hvalue
  obtain ⟨arranged, sorted, hperm, hsort, hfirst, hstable⟩ :=
    sortRows_map hkey hsame hvalues k.direction
  refine ⟨arranged, ⟨hperm, sorted, hfirst, hstable⟩, answersGroups_of_run ?_ ?_⟩
  · exact fun group hgroup => hrows group (hperm.mem_iff.mp hgroup)
  · rw [run_groups haggregate hgroups, horder, hsort]
    rfl

theorem run_hides_column (haggregate : q.isAggregate = true) (horder : q.order = some k)
    (hgroups : selectRows q.condition rows >>= aggregate q.groupItems q.grouping = .ok out)
    (hhides : ∀ item ∈ q.groupItems, item.outputName ≠ k.column) :
    q.AnswersGroups rows (q.groups rows) := by
  obtain ⟨rfl, hrows⟩ := shownRow_spec hgroups
  have hmissing : ∀ row ∈ (q.groups rows).map q.shownRow, (row.get k.column).isNull = true := by
    intro row hrow
    obtain ⟨group, hgroup, rfl⟩ := List.mem_map.mp hrow
    have hnone : (q.groupItems.any fun item => item.outputName == k.column) = false := by
      simpa using hhides
    have hitself : ShownAsItself k.column q.groupItems := fun item hitem hname =>
      absurd hname (hhides item hitem)
    rw [Record.get, get?_groupRow_itself hitself (hrows group hgroup), hnone]
    rfl
  have hsort : sortRows (some k) ([] ++ (q.groups rows).map q.shownRow) =
      .ok ([] ++ (q.groups rows).map q.shownRow) := by
    have hkey : Decides (fun a b : Record => (a.get k.column).before (b.get k.column))
        (fun _ => 0) (· ∈ []) := fun _ _ h => absurd h List.not_mem_nil
    have horders : k.direction.Orders (fun _ => 0) [] := by
      cases k.direction with
      | ascending | descending => exact .nil
    exact sortRows_of_orders hkey horders (fun _ h => absurd h List.not_mem_nil) hmissing
  rw [List.nil_append] at hsort
  refine answersGroups_of_run hrows ?_
  rw [run_groups haggregate hgroups, horder, hsort]
  rfl

/-- A value of a kind, or none, is equal to itself. -/
theorem Value.alike_self {kind : ValueKind} {v : Value}
    (h : v.isNull = false → kind.includes v = true) : v.alike v = true := by
  have hplaced {n : Number} {p : Place} (hp : n.place? = some p) : n.keyPart ≠ .alone := by
    simp [Number.keyPart_eq_placed.mpr hp]
  rw [Value.alike_iff]
  refine ⟨rfl, ?_⟩
  cases v with
  | null | string _ => simp [keyPart]
  | bool b =>
      rw [keyPart]
      exact hplaced rfl
  | number n =>
      cases kind with
      | numeric =>
          obtain ⟨p, hp⟩ := Option.isSome_iff_exists.mp (h rfl)
          exact hplaced hp
      | truth | text => exact absurd (h rfl) Bool.false_ne_true
  | array _ | object _ => cases kind <;> exact absurd (h rfl) Bool.false_ne_true

/-- All rows of a group have the value that its first row has in a grouping column. -/
theorem alike_firstRow (hgrouping : column ∈ q.grouping) {kind : ValueKind}
    (hkind : ∀ row ∈ rows, satisfies q.condition row = true → (row.get column).isNull = false →
      kind.includes (row.get column) = true) {group : List Record} (hgroup : group ∈ q.groups rows)
    {row : Record} (hrow : row ∈ group) :
    ((firstRow group).get column).alike (row.get column) = true := by
  have hgrouped := rowGroups_grouped q.grouping (rows.filter (satisfies q.condition))
  cases group with
  | nil => nomatch hrow
  | cons first later =>
      rcases List.mem_cons.mp hrow with rfl | hlater
      · obtain ⟨hmem, hsatisfies⟩ := selected_of_groups hgroup hrow
        exact Value.alike_self (hkind row hmem hsatisfies)
      · have hsame := (List.pairwise_cons.mp (hgrouped.pairwise hgroup)).1 row hlater
        exact sameKey_iff.mp hsame column hgrouping

/-- Groups sorted by a grouping column, where its values are of one kind. All rows of a group have
its value. If the query shows the column under its own name, as a query for everything does, then
whatever else it shows, the answer has the rows of the groups in the order of their values, those
without one last, up to the limit. If it shows nothing under that name, the groups are not sorted,
and the limit leaves the first ones of the rows. -/
theorem run_groups_in_order (haggregate : q.isAggregate = true) (horder : q.order = some k)
    (hgrouping : k.column ∈ q.grouping) (hkind : q.SortsOneKind rows)
    (hgroups : selectRows q.condition rows >>= aggregate q.groupItems q.grouping = .ok out) :
    (∀ group ∈ q.groups rows, ∀ row ∈ group,
      ((firstRow group).get k.column).alike (row.get k.column) = true) ∧
    (q.projection = .everything → q.ShowsColumn k.column) ∧
    (q.ShowsColumn k.column → ∃ arranged, GroupsInOrder k (q.groups rows) arranged ∧
      q.AnswersGroups rows arranged) ∧
    ((∀ item ∈ q.groupItems, item.outputName ≠ k.column) →
      q.AnswersGroups rows (q.groups rows)) := by
  refine ⟨?_, fun hall => showsColumn_of_everything hall hgrouping,
    run_shows_column haggregate horder hkind hgroups, run_hides_column haggregate horder hgroups⟩
  intro group hgroup row hrow
  obtain ⟨kind, hkind⟩ := hkind k horder
  exact alike_firstRow hgrouping hkind hgroup hrow

/-- A column under its own name behind a count, sorted downwards with a null group. -/
theorem run_groups_in_order_descending :
    let text := "SELECT COUNT(*) AS n, city FROM data GROUP BY city ORDER BY city DESC LIMIT 2"
    let row (city : Value) : Record := [("city", city)]
    let rows := [row .null, row (.string "Oslo"), row (.string "Rome"), row (.string "Oslo")]
    let key : SortKey := ⟨"city", .descending⟩
    ∃ q arranged, Query.parse text = .ok q ∧ GroupsInOrder key (q.groups rows) arranged ∧
      q.AnswersGroups rows arranged := by
  intro text row rows key
  let items : List SelectItem :=
    [⟨"COUNT(*) AS n", .aggregate .count .rows (some "n")⟩, ⟨"city", .column "city" none⟩]
  let q : Query := { text := text, projection := .listed items, source := some "data"
                     condition := none, grouping := ["city"], order := some key, limit := some 2
                     warnings := [] }
  have hparse : Query.parse text = .ok q := by
    apply toOption_eq_some.mp
    decide +kernel
  have hkind : q.SortsOneKind rows := by
    rintro _ ⟨⟩
    exact ⟨.text, by decide⟩
  have hgroups : selectRows q.condition rows >>= aggregate q.groupItems q.grouping =
      .ok [[("n", .ofInt 1), ("city", .null)], [("n", .ofInt 2), ("city", .string "Oslo")],
        [("n", .ofInt 1), ("city", .string "Rome")]] := by
    cbv
  have hshows : q.ShowsColumn "city" := by decide +kernel
  obtain ⟨-, -, hshown, -⟩ := run_groups_in_order rfl rfl (by decide) hkind hgroups
  obtain ⟨arranged, horder, hanswers⟩ := hshown hshows
  exact ⟨q, arranged, hparse, horder, hanswers⟩

/-- Under another name the column is not there to sort by: the group of the text that comes first
is cut off. -/
theorem run_groups_under_another_name :
    let text := "SELECT city AS place, COUNT(*) AS n FROM data GROUP BY city ORDER BY city LIMIT 1"
    let row (city : String) : Record := [("city", .string city)]
    let rows := [row "Rome", row "Rome", row "Oslo"]
    let key : SortKey := ⟨"city", .ascending⟩
    ∃ q, Query.parse text = .ok q ∧ q.isAggregate = true ∧ q.order = some key ∧
      "city" ∈ q.grouping ∧ q.SortsOneKind rows ∧
      q.run true rows = .ok ⟨[[("place", .string "Rome"), ("n", .ofInt 2)]], []⟩ ∧
      ¬ ∃ arranged, GroupsInOrder key (q.groups rows) arranged ∧ q.AnswersGroups rows arranged := by
  intro text row rows key
  let items : List SelectItem := [⟨"city AS place", .column "city" (some "place")⟩,
    ⟨"COUNT(*) AS n", .aggregate .count .rows (some "n")⟩]
  let q : Query := { text := text, projection := .listed items, source := some "data"
                     condition := none, grouping := ["city"], order := some key, limit := some 1
                     warnings := [] }
  have hparse : Query.parse text = .ok q := by
    apply toOption_eq_some.mp
    decide +kernel
  have hkind : q.SortsOneKind rows := by
    rintro _ ⟨⟩
    exact ⟨.text, by decide⟩
  have hrun : q.run true rows = .ok ⟨[[("place", .string "Rome"), ("n", .ofInt 2)]], []⟩ := by cbv
  have hgroups : q.groups rows = [[row "Rome", row "Rome"], [row "Oslo"]] := by cbv
  have holso : aggregate q.groupItems [] [row "Oslo"] =
      .ok [[("place", .string "Oslo"), ("n", .ofInt 1)]] := by cbv
  refine ⟨q, hparse, rfl, rfl, by decide, hkind, hrun, ?_⟩
  rintro ⟨arranged, horder, shown, hshown, hanswers⟩
  rw [hgroups] at horder
  obtain ⟨sorted, hfirst, hstable⟩ := horder.sorted
  have harranged := List.mem_permutations.mpr horder.perm
  have hboth : [[row "Rome", row "Rome"], [row "Oslo"]].permutations =
      [[[row "Rome", row "Rome"], [row "Oslo"]], [[row "Oslo"], [row "Rome", row "Rome"]]] := by
    cbv
  rw [hboth, List.mem_pair] at harranged
  obtain rfl | rfl := harranged
  · -- this order is not the order of the texts
    have hsorted : sorted = [row "Rome", row "Oslo"] := by
      rw [← List.append_nil sorted]
      exact hfirst.symm
    rw [hsorted] at hstable
    obtain ⟨o, hcompare, hadmits⟩ :=
      (List.pairwise_cons.mp hstable.inOrder).1 (row "Oslo") (List.mem_singleton.mpr rfl)
    have hgreater : ((row "Rome").get "city").compare ((row "Oslo").get "city") = .ok .gt := by
      cbv
    obtain rfl := Except.ok.inj (hgreater.symm.trans hcompare)
    exact hadmits rfl
  · -- in this order the other group would be answered
    obtain ⟨first, others, holsoShown, -, rfl⟩ := List.forall₂_cons_left_iff.mp hshown
    have hanswer := Except.ok.inj (hrun.symm.trans hanswers)
    have hrome : first = [("place", .string "Rome"), ("n", .ofInt 2)] := by
      have hrows := congrArg QueryResult.rows hanswer
      exact (List.cons.inj hrows).1.symm
    rw [holso, hrome] at holsoShown
    simp at holsoShown

end Groups

end JsonQuery
