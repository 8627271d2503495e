import JsonQuery.Proofs.Query.Extremes

/-!
Functions over a column whose numbers are all integers. What is gathered of integers depends on
the integers only: how many there are, their sum, the least and the greatest. So the order of the
rows changes nothing, and what two lists show can be combined into what both together show.
-/

namespace JsonQuery

open Outcome

section Reduction

variable {op : ℤ → ℤ → ℤ} [Std.Associative op]

/-- Integers combined by an operation, nothing without an integer. -/
def reduce? (op : ℤ → ℤ → ℤ) : List ℤ → Option ℤ
  | [] => none
  | m :: ms => some (ms.foldl op m)

theorem min?_eq_reduce? (ms : List ℤ) : ms.min? = reduce? min ms := by
  cases ms with
  | nil | cons _ _ => rfl

theorem max?_eq_reduce? (ms : List ℤ) : ms.max? = reduce? max ms := by
  cases ms with
  | nil | cons _ _ => rfl

theorem reduce?_append (ms ns : List ℤ) :
    reduce? op (ms ++ ns) = Option.merge op (reduce? op ms) (reduce? op ns) := by
  cases ms with
  | nil => cases ns <;> rfl
  | cons m ms =>
      cases ns with
      | nil => simp [reduce?, Option.merge]
      | cons n ns => simp [reduce?, Option.merge, List.foldl_append, List.foldl_assoc]

theorem reduce?_perm [Std.Commutative op] {ms ns : List ℤ} (h : ms.Perm ns) :
    reduce? op ms = reduce? op ns := by
  induction h with
  | nil => rfl
  | @cons m ms ns _ ih =>
      have hfirst (ls : List ℤ) : reduce? op (m :: ls) = Option.merge op (some m) (reduce? op ls) :=
        reduce?_append [m] ls
      rw [hfirst, hfirst, ih]
  | swap m n ms =>
      have hswap : op n m = op m n := Std.Commutative.comm n m
      rw [reduce?, reduce?, List.foldl_cons, List.foldl_cons, hswap]
  | trans _ _ ih ih' => exact ih.trans ih'

end Reduction

section Gathering

variable {rows : List Record}

theorem Number.less_int (m n : ℤ) : (Number.int m).less (.int n) = decide (m < n) := by
  have hunits : (0 : ℤ) < (Binary64.unitsPerOne : ℤ) := Int.natCast_pos.mpr Value.unitsPerOne_pos
  have hcompare : (Number.int m).compare? (.int n) =
      some (Ord.compare (m * Binary64.unitsPerOne) (n * Binary64.unitsPerOne)) := rfl
  rw [Bool.eq_iff_iff, decide_eq_true_iff, less, hcompare, beq_iff_eq, Option.some_inj,
    compare_lt_iff_lt]
  exact mul_lt_mul_iff_left₀ hunits

theorem Number.least_int (k m : ℤ) :
    (if (Number.int m).less (.int k) then Number.int m else .int k) = .int (min k m) := by
  rw [less_int]
  rcases lt_or_ge m k with h | h
  · simp [h, min_eq_right h.le]
  · simp [h.not_gt, min_eq_left h]

theorem Number.greatest_int (k m : ℤ) :
    (if (Number.int k).less (.int m) then Number.int m else .int k) = .int (max k m) := by
  rw [less_int]
  rcases lt_or_ge k m with h | h
  · simp [h, max_eq_right h.le]
  · simp [h.not_gt, max_eq_left h]

/-- What is gathered of integers. -/
def Tally.ofIntegers (ms : List ℤ) : Tally :=
  ⟨ms.length, .int ms.sum, ms.min?.map .int, ms.max?.map .int⟩

/-- One more integer is counted, added and compared with what was found before. -/
theorem Tally.add_ofIntegers (ms : List ℤ) (m : ℤ) :
    (Tally.ofIntegers ms).add (.int m) = .ok (Tally.ofIntegers (ms ++ [m])) := by
  have hleast : (ms ++ [m]).min? = Option.merge min ms.min? (some m) := by
    rw [min?_eq_reduce?, min?_eq_reduce?]
    exact reduce?_append ms [m]
  have hgreatest : (ms ++ [m]).max? = Option.merge max ms.max? (some m) := by
    rw [max?_eq_reduce?, max?_eq_reduce?]
    exact reduce?_append ms [m]
  have hadd : (Tally.ofIntegers ms).sum.add? (.int m) = some (.int (ms.sum + m)) := rfl
  rw [Tally.add, hadd, ofIntegers, ofIntegers, hleast, hgreatest, List.sum_append,
    List.sum_singleton, List.length_append, List.length_singleton]
  cases ms.min? <;> cases ms.max? <;> simp [Option.merge, Number.least_int, Number.greatest_int]

theorem foldlM_add_int (ms : List ℤ) :
    (ms.map Number.int).foldlM Tally.add Tally.empty = .ok (Tally.ofIntegers ms) := by
  induction ms using List.reverseRecOn with
  | nil => rfl
  | append_singleton ms m ih =>
      rw [List.map_append, List.foldlM_append, ih, ok_bind, List.map_singleton, List.foldlM_cons,
        Tally.add_ofIntegers]
      rfl

end Gathering

section OneGroup

variable {items : List SelectItem} {item : SelectItem} {rows : List Record}

/-- Without grouping columns every row is taken into the group that is there. -/
theorem foldlM_addToGroups_no_columns (rows : List Record) (g : Group) (hkey : g.key = []) :
    rows.foldlM (fun groups row => addToGroups items (groupKey [] row) row groups) [g] =
      (rows.foldlM (takeIn items) g.tallies).map
        fun tallies => [{ g with tallies := tallies }] := by
  induction rows generalizing g with
  | nil => rfl
  | cons row rows ih =>
      have hadd : addToGroups items (groupKey [] row) row [g] =
          (takeIn items g.tallies row).map fun tallies => [{ g with tallies := tallies }] := by
        have hsame : sameGroup g.key (groupKey [] row) = true := by
          rw [hkey]
          rfl
        rw [addToGroups, if_pos hsame, Group.gather, takeIn]
        cases (items.zip g.tallies).mapM fun p => p.1.gather p.2 row <;> rfl
      rw [List.foldlM_cons, List.foldlM_cons, hadd]
      cases takeIn items g.tallies row with
      | error _ => rfl
      | ok tallies => exact ih { g with tallies := tallies } hkey

/-- Without grouping columns the rows, if there are any, are one group, and its row is shown. -/
theorem aggregate_eq_groupRow (items : List SelectItem) (rows : List Record) :
    aggregate items [] rows = (groupRow items rows).map fun row => [row] := by
  have hone (g : Group) : [g].mapM (Group.row items) = (g.row items).map fun row => [row] := by
    rw [List.mapM_cons]
    cases g.row items <;> rfl
  cases rows with
  | nil => exact hone ⟨[], none, items.map fun _ => Tally.empty⟩
  | cons row rows =>
      have hgroups : groupsOf items [] (row :: rows) =
          (talliesOf items (row :: rows)).map fun tallies => [⟨[], some row, tallies⟩] :=
        foldlM_addToGroups_no_columns (row :: rows)
          ⟨[], some row, items.map fun _ => Tally.empty⟩ rfl
      rw [aggregate, groupRow, hgroups]
      cases talliesOf items (row :: rows) with
      | error _ => rfl
      | ok tallies => exact hone ⟨[], some row, tallies⟩

theorem foldlM_takeIn_cons {t t' : Tally} {tallies tallies' : List Tally}
    (h : rows.foldlM item.gather t = .ok t')
    (hrest : rows.foldlM (takeIn items) tallies = .ok tallies') :
    rows.foldlM (takeIn (item :: items)) (t :: tallies) = .ok (t' :: tallies') := by
  induction rows generalizing t tallies with
  | nil =>
      rw [← pure_eq_ok.mp h, ← pure_eq_ok.mp hrest]
      rfl
  | cons row rows ih =>
      obtain ⟨u, hu, hlater⟩ := bind_eq_ok.mp h
      obtain ⟨us, hus, hlaterRest⟩ := bind_eq_ok.mp hrest
      have hstep : takeIn (item :: items) (t :: tallies) row = .ok (u :: us) := by
        rw [takeIn, List.zip_cons_cons, List.mapM_cons, hu, ok_bind]
        exact bind_eq_ok.mpr ⟨us, hus, rfl⟩
      rw [List.foldlM_cons, hstep]
      exact ih hlater hlaterRest

/-- What each entry alone makes of the rows is what all of them make. -/
theorem talliesOf_of_each {tallies : List Tally}
    (h : List.Forall₂ (fun item t => rows.foldlM item.gather Tally.empty = .ok t) items tallies) :
    talliesOf items rows = .ok tallies := by
  induction h with
  | nil =>
      induction rows with
      | nil => rfl
      | cons row rows ih => exact ih
  | cons h _ ih => exact foldlM_takeIn_cons h ih

end OneGroup

section Entries

def Number.int? : Number → Option ℤ
  | .int m => some m
  | .float _ => none

def integersIn (column : String) (rows : List Record) : List ℤ :=
  (numbersIn column rows).filterMap Number.int?

/-- All numbers of a column are integers. Its other values are not restricted. -/
def Integral (column : String) (rows : List Record) : Prop :=
  ∀ n ∈ numbersIn column rows, n.int?.isSome = true

instance (column : String) (rows : List Record) : Decidable (Integral column rows) :=
  inferInstanceAs (Decidable (∀ n ∈ numbersIn column rows, n.int?.isSome = true))

/-- An integer as a value, null without one. -/
def Value.ofInt? (m : Option ℤ) : Value := (m.map Value.ofInt).getD .null

/-- What a function has to show of some rows, if all numbers among the values that it is applied
to are integers. -/
def AggregateFunction.exact (f : AggregateFunction) (argument : Argument) (rows : List Record) :
    Except Fault Value :=
  let ms := integersIn argument.name rows
  match f with
  | .count => match argument with
      | .rows => .ok (.ofInt rows.length)
      | .column name => .ok (.ofInt (rows.countP fun row => !(row.get name).isNull))
  | .sum => .ok (.ofInt ms.sum)
  | .least => .ok (.ofInt? ms.min?)
  | .greatest => .ok (.ofInt? ms.max?)
  | .mean =>
      if ms.isEmpty then .ok .null
      else match (Number.int ms.sum).mean? ms.length with
        | some x => .ok (.ofFloat x)
        | none => .error .quotientExceedsFloat

/-- An entry of a selection list that applies a function, with all that makes it one. -/
structure FunctionEntry where
  text : String
  function : AggregateFunction
  argument : Argument
  label : Option String

namespace FunctionEntry

def item (e : FunctionEntry) : SelectItem := ⟨e.text, .aggregate e.function e.argument e.label⟩

/-- All numbers that the function of an entry takes are integers. Counting takes no numbers. -/
def OverIntegers (e : FunctionEntry) (rows : List Record) : Prop :=
  e.function = .count ∨ Integral e.argument.name rows

instance (e : FunctionEntry) (rows : List Record) : Decidable (e.OverIntegers rows) :=
  inferInstanceAs (Decidable (_ ∨ _))

def exact (e : FunctionEntry) (rows : List Record) : Except Fault Value :=
  e.function.exact e.argument rows

/-- What an entry alone shows of some rows, taken as one group. -/
def Shows (e : FunctionEntry) (rows : List Record) (v : Value) : Prop :=
  aggregate [e.item] [] rows = .ok [[(e.item.outputName, v)]]

end FunctionEntry

variable {column : String} {e : FunctionEntry} {entries : List FunctionEntry}
  {rows rows' xs ys : List Record}

theorem Integral.numbersIn_eq (h : Integral column rows) :
    numbersIn column rows = (integersIn column rows).map Number.int := by
  unfold Integral at h
  unfold integersIn
  generalize numbersIn column rows = ns at h ⊢
  induction ns with
  | nil => rfl
  | cons n ns ih =>
      obtain ⟨hn, hns⟩ := List.forall_mem_cons.mp h
      cases n with
      | int m =>
          have hint : (Number.int m).int? = some m := rfl
          rw [List.filterMap_cons_some hint, List.map_cons, ← ih hns]
      | float x => nomatch hn

theorem result_ofIntegers {f : AggregateFunction} (hf : f ≠ .count) (argument : Argument)
    (rows : List Record) :
    f.result (Tally.ofIntegers (integersIn argument.name rows)) = f.exact argument rows := by
  have hvalue (m : Option ℤ) : (m.map Number.int).map Value.number = m.map Value.ofInt :=
    Option.map_map _ _ m
  unfold AggregateFunction.exact Tally.ofIntegers
  generalize integersIn argument.name rows = ms
  cases f with
  | count => exact absurd rfl hf
  | sum => rfl
  | least => exact congrArg (fun m => Except.ok (m.getD Value.null)) (hvalue ms.min?)
  | greatest => exact congrArg (fun m => Except.ok (m.getD Value.null)) (hvalue ms.max?)
  | mean =>
      rw [AggregateFunction.result]
      dsimp only
      have hnone : (ms.length == 0) = ms.isEmpty := by cases ms <;> rfl
      rw [hnone]
      refine if_congr Iff.rfl rfl ?_
      cases (Number.int ms.sum).mean? ms.length with
      | none | some _ => rfl

theorem FunctionEntry.OverIntegers.gathered (h : e.OverIntegers rows) :
    ∃ t, rows.foldlM e.item.gather Tally.empty = .ok t ∧ e.function.result t = e.exact rows := by
  obtain ⟨text, f, argument, label⟩ := e
  by_cases hcount : f = .count
  · subst hcount
    cases argument with
    | rows =>
        refine ⟨_, foldlM_gather_rows rfl rows Tally.empty, ?_⟩
        simp [AggregateFunction.result, FunctionEntry.exact, AggregateFunction.exact, Tally.empty]
    | column name =>
        refine ⟨_, foldlM_gather_count rfl rows Tally.empty, ?_⟩
        simp [AggregateFunction.result, FunctionEntry.exact, AggregateFunction.exact, Tally.empty,
          List.countP_map]
        rfl
  · have hintegral := (h.resolve_left hcount).numbersIn_eq
    refine ⟨_, ?_, result_ofIntegers hcount argument rows⟩
    rw [foldlM_gather_numbers rfl hcount, ← foldlM_add_int, ← hintegral]
    rfl

/-- The row that entries have to show of some rows. -/
def exactRow (entries : List FunctionEntry) (rows : List Record) : Except Fault Record :=
  entries.foldlM (fun output e => (e.exact rows).map (output.put e.item.outputName)) []

theorem foldlM_show_eq {first : Option Record} {tallies : List Tally}
    (h : List.Forall₂ (fun e t => e.function.result t = e.exact rows) entries tallies)
    (output : Record) :
    ((entries.map FunctionEntry.item).zip tallies).foldlM
        (fun output p => p.1.show first p.2 output) output =
      entries.foldlM (fun output e => (e.exact rows).map (output.put e.item.outputName))
        output := by
  induction h generalizing output with
  | nil => rfl
  | @cons e t entries tallies hresult _ ih =>
      have hshow : e.item.show first t output =
          (e.exact rows).map (output.put e.item.outputName) := by
        rw [← hresult]
        rfl
      rw [List.map_cons, List.zip_cons_cons, List.foldlM_cons, List.foldlM_cons, hshow]
      exact bind_congr fun next => ih next

theorem groupRow_eq_exactRow (h : ∀ e ∈ entries, e.OverIntegers rows) :
    groupRow (entries.map FunctionEntry.item) rows = exactRow entries rows := by
  obtain ⟨tallies, htallies⟩ := exists_forall₂ fun e he => (h e he).gathered
  have hgathered : talliesOf (entries.map FunctionEntry.item) rows = .ok tallies :=
    talliesOf_of_each (List.forall₂_map_left_iff.mpr (htallies.imp fun _ _ ht => ht.1))
  rw [groupRow, hgathered]
  exact foldlM_show_eq (htallies.imp fun _ _ ht => ht.2) []

theorem aggregate_eq_exactRow (h : ∀ e ∈ entries, e.OverIntegers rows) :
    aggregate (entries.map FunctionEntry.item) [] rows =
      (exactRow entries rows).map fun row => [row] := by
  rw [aggregate_eq_groupRow, groupRow_eq_exactRow h]

theorem FunctionEntry.OverIntegers.shows (h : e.OverIntegers rows) {v : Value}
    (hv : e.exact rows = .ok v) : e.Shows rows v := by
  have hrow : aggregate ([e].map FunctionEntry.item) [] rows =
      (exactRow [e] rows).map fun row => [row] :=
    aggregate_eq_exactRow (by simpa using h)
  rw [exactRow, List.foldlM_cons, hv] at hrow
  exact hrow

/-- Whatever else is shown, the value of an entry is exact, unless a later one has its name. -/
theorem FunctionEntry.OverIntegers.get?_groupRow (h : e.OverIntegers rows)
    {before after : List SelectItem} {row : Record}
    (hlast : ∀ later ∈ after, later.outputName ≠ e.item.outputName)
    (hrow : groupRow (before ++ e.item :: after) rows = .ok row) :
    ∃ v, e.exact rows = .ok v ∧ row.get? e.item.outputName = some v := by
  obtain ⟨t, output, shown, ht, hshown, hget⟩ := exists_show hlast hrow
  obtain ⟨t', ht', hresult⟩ := h.gathered
  obtain rfl := Except.ok.inj (ht.symm.trans ht')
  obtain ⟨v, hv, hput⟩ := bind_eq_ok.mp hshown
  refine ⟨v, hresult.symm.trans hv, ?_⟩
  rw [hget, ← pure_eq_ok.mp hput, Record.get?_put, if_pos rfl]

end Entries

section Rearranged

variable {column : String} {f : AggregateFunction} {e : FunctionEntry} {rows rows' : List Record}

theorem mem_numbersIn {n : Number} :
    n ∈ numbersIn column rows ↔ ∃ row ∈ rows, (row.get column).number? = some n := by
  simp [numbersIn]

theorem FunctionEntry.OverIntegers.mono (h : e.OverIntegers rows) (hrows : rows' ⊆ rows) :
    e.OverIntegers rows' := by
  refine h.imp_right fun hintegral n hn => ?_
  obtain ⟨row, hrow, hnumber⟩ := mem_numbersIn.mp hn
  exact hintegral n (mem_numbersIn.mpr ⟨row, hrows hrow, hnumber⟩)

theorem AggregateFunction.exact_perm (f : AggregateFunction) (argument : Argument)
    (h : rows'.Perm rows) : f.exact argument rows' = f.exact argument rows := by
  have hintegers : (integersIn argument.name rows').Perm (integersIn argument.name rows) :=
    ((h.map _).filterMap _).filterMap _
  cases f with
  | count =>
      cases argument with
      | rows => simp only [exact, h.length_eq]
      | column name => simp only [exact, h.countP_eq]
  | sum => simp only [exact, hintegers.sum_eq]
  | least => simp only [exact, min?_eq_reduce?, reduce?_perm hintegers]
  | greatest => simp only [exact, max?_eq_reduce?, reduce?_perm hintegers]
  | mean =>
      have hempty : (integersIn argument.name rows').isEmpty =
          (integersIn argument.name rows).isEmpty := by
        rw [Bool.eq_iff_iff, List.isEmpty_iff, List.isEmpty_iff]
        exact ⟨fun hnil => (hnil ▸ hintegers).nil_eq.symm, fun hnil => (hnil ▸ hintegers).eq_nil⟩
      simp only [exact, hempty, hintegers.sum_eq, hintegers.length_eq]

end Rearranged

section Merged

variable {op : ℤ → ℤ → ℤ} {f : AggregateFunction}

/-- How the values that a function shows of two lists are combined. Means are not. -/
def AggregateFunction.merging? : AggregateFunction → Option (ℤ → ℤ → ℤ)
  | .count | .sum => some (· + ·)
  | .least => some min
  | .greatest => some max
  | .mean => none

/-- Two integers combined as values, null being neutral. -/
def Value.combine (op : ℤ → ℤ → ℤ) : Value → Value → Value
  | .null, v => v
  | .number (.int m), .number (.int n) => .ofInt (op m n)
  | v, _ => v

theorem Value.combine_ofInt? (op : ℤ → ℤ → ℤ) (m n : Option ℤ) :
    Value.combine op (.ofInt? m) (.ofInt? n) = .ofInt? (Option.merge op m n) := by
  cases m <;> cases n <;> rfl

theorem integersIn_append (column : String) (xs ys : List Record) :
    integersIn column (xs ++ ys) = integersIn column xs ++ integersIn column ys := by
  simp [integersIn, numbersIn]

theorem AggregateFunction.exact_append (hop : f.merging? = some op) (argument : Argument)
    (xs ys : List Record) :
    ∃ a b, f.exact argument xs = .ok a ∧ f.exact argument ys = .ok b ∧
      f.exact argument (xs ++ ys) = .ok (Value.combine op a b) := by
  cases f with
  | count =>
      obtain rfl := Option.some.inj hop
      cases argument with
      | rows => exact ⟨_, _, rfl, rfl, by simp [exact, Value.combine, Value.ofInt]⟩
      | column name => exact ⟨_, _, rfl, rfl, by simp [exact, Value.combine, Value.ofInt]⟩
  | sum =>
      obtain rfl := Option.some.inj hop
      refine ⟨_, _, rfl, rfl, ?_⟩
      simp [exact, integersIn_append, Value.combine, Value.ofInt]
  | least =>
      obtain rfl := Option.some.inj hop
      refine ⟨_, _, rfl, rfl, ?_⟩
      simp only [exact, integersIn_append, min?_eq_reduce?, reduce?_append, Value.combine_ofInt?]
  | greatest =>
      obtain rfl := Option.some.inj hop
      refine ⟨_, _, rfl, rfl, ?_⟩
      simp only [exact, integersIn_append, max?_eq_reduce?, reduce?_append, Value.combine_ofInt?]
  | mean => cases hop

end Merged

/-- Where all numbers of a column are integers, functions over it are exact and can be merged. The
row of one group has the exact value of each entry; only a mean can be too large to be shown. It
is the same for the same rows in another order, and so is whether there is one. Of two lists one
after the other an entry shows what it shows of each, combined: counts and sums added, and of two
least or greatest integers the smaller or the larger. Among other entries and for each of several
groups, whatever is shown is exact. -/
theorem aggregate_integers {entries : List FunctionEntry} {rows : List Record}
    (hentries : ∀ e ∈ entries, e.OverIntegers rows) :
    aggregate (entries.map FunctionEntry.item) [] rows =
        (exactRow entries rows).map (fun row => [row]) ∧
      (∀ rows' : List Record, rows'.Perm rows →
        aggregate (entries.map FunctionEntry.item) [] rows' =
          aggregate (entries.map FunctionEntry.item) [] rows) ∧
      (∀ e ∈ entries, ∀ op, e.function.merging? = some op → ∀ xs ys, rows = xs ++ ys →
        ∃ a b, e.Shows xs a ∧ e.Shows ys b ∧ e.Shows rows (Value.combine op a b)) ∧
      ∀ e ∈ entries, ∀ before after columns out,
        (∀ later ∈ after, later.outputName ≠ e.item.outputName) →
        aggregate (before ++ e.item :: after) columns rows = .ok out →
        List.Forall₂ (fun group row => ∃ v, e.exact group = .ok v ∧
            row.get? e.item.outputName = some v) (rowGroups columns rows) out := by
  refine ⟨aggregate_eq_exactRow hentries, ?rearranged, ?merged, ?among⟩
  case rearranged =>
    intro rows' hperm
    rw [aggregate_eq_exactRow hentries,
      aggregate_eq_exactRow fun e he => (hentries e he).mono hperm.subset]
    simp only [exactRow, FunctionEntry.exact, AggregateFunction.exact_perm _ _ hperm]
  case merged =>
    rintro e he op hop xs ys rfl
    obtain ⟨a, b, hxs, hys, hall⟩ := AggregateFunction.exact_append hop e.argument xs ys
    exact ⟨a, b, ((hentries e he).mono (List.subset_append_left xs ys)).shows hxs,
      ((hentries e he).mono (List.subset_append_right xs ys)).shows hys,
      (hentries e he).shows hall⟩
  case among =>
    intro e he before after columns out hlast haggregate
    have hgroups : ∀ group ∈ rowGroups columns rows, e.OverIntegers group := by
      intro group hgroup
      refine (hentries e he).mono fun row hrow => ?_
      exact (rowGroups_grouped columns rows).exhaust.mem_iff.mp
        (List.mem_flatten_of_mem hgroup hrow)
    have hrows := (List.forall₂_and_left _ _).mpr ⟨hgroups, aggregate_eq_ok.mp haggregate⟩
    exact hrows.imp fun _ _ h => h.1.get?_groupRow hlast h.2

/-- Integers beyond double precision, among values that are none, backwards and cut in two. -/
theorem aggregate_integers_large :
    let entry (f : AggregateFunction) : FunctionEntry := ⟨f.name, f, .column "a", some f.name⟩
    let all : FunctionEntry := ⟨"COUNT(*)", .count, .rows, none⟩
    let entries := [all, entry .count, entry .sum, entry .mean, entry .least, entry .greatest]
    let xs : List Record := [[("a", .ofInt (2 ^ 70))], [("a", .string "7")], []]
    let ys : List Record := [[("a", .bool true)], [("a", .null)], [("a", .ofInt (4 - 2 ^ 70))]]
    (∀ e ∈ entries, e.OverIntegers (xs ++ ys)) ∧
      aggregate (entries.map FunctionEntry.item) [] (xs ++ ys).reverse =
        .ok [[("COUNT(*)", .ofInt 6), ("COUNT", .ofInt 4), ("SUM", .ofInt 4),
          ("AVG", .ofFloat (.finite false (powerOfTwo 1075))), ("MIN", .ofInt (4 - 2 ^ 70)),
          ("MAX", .ofInt (2 ^ 70))]] ∧
      ∃ a b, (entry .least).Shows xs a ∧ (entry .least).Shows ys b ∧
        (entry .least).Shows (xs ++ ys) (Value.combine min a b) := by
  intro entry all entries xs ys
  have hentries : ∀ e ∈ entries, e.OverIntegers (xs ++ ys) := by decide +kernel
  obtain ⟨hexact, hreversed, hmerged, -⟩ := aggregate_integers hentries
  refine ⟨hentries, ?_, hmerged (entry .least) (by simp [entries]) min rfl xs ys rfl⟩
  rw [hreversed _ (List.reverse_perm _), hexact]
  have hmean : (entry .mean).exact (xs ++ ys) =
      .ok (.ofFloat (.finite false (powerOfTwo 1075))) := by
    have hquotient : (Number.int 4).mean? 2 = some (.finite false (powerOfTwo 1075)) := by
      decide +kernel
    have hintegers : integersIn "a" (xs ++ ys) = [2 ^ 70, 4 - 2 ^ 70] := by decide +kernel
    simp only [FunctionEntry.exact, AggregateFunction.exact, entry, Argument.name, hintegers]
    simp [hquotient]
  have hcount : all.exact (xs ++ ys) = .ok (.ofInt 6) := rfl
  have hvalues : (entry .count).exact (xs ++ ys) = .ok (.ofInt 4) := by cbv
  have hsum : (entry .sum).exact (xs ++ ys) = .ok (.ofInt 4) := by cbv
  have hleast : (entry .least).exact (xs ++ ys) = .ok (.ofInt (4 - 2 ^ 70)) := by cbv
  have hgreatest : (entry .greatest).exact (xs ++ ys) = .ok (.ofInt (2 ^ 70)) := by cbv
  simp only [exactRow, entries, List.foldlM_cons, List.foldlM_nil, hcount, hvalues, hsum, hmean,
    hleast, hgreatest]
  generalize Value.ofFloat (.finite false (powerOfTwo 1075)) = mean
  cbv

end JsonQuery
