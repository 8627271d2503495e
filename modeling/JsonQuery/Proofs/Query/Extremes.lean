import JsonQuery.Proofs.Number.Rounding
import JsonQuery.Proofs.Query.ColumnName
import JsonQuery.Proofs.Query.Failing
import Mathlib.Tactic

/-!
The least and the greatest number of a column. What a group gathers for them is compared exactly,
so among numbers that have a place the one that is kept is at most, or at least, every other one,
and the first of those equal to it. But the sum of the numbers is gathered with them, whether or
not it is asked for, and where that does not exist nothing is shown. It is an integer up to the
first double-precision number and rounded from there on, so it exists exactly if at that number the
sum is in range, and every later integer is.
-/

namespace JsonQuery

open Outcome

/-- The numbers of a column, in the order of the rows. -/
def numbersIn (column : String) (rows : List Record) : List Number :=
  (rows.map fun row => row.get column).filterMap Value.number?

section Sums

variable {start : ℤ} {ns : List Number}

/-- Whether numbers can be added to an integer, one after the other: where the first of them that
is in double precision is added the sum is in range, and so is every later integer. -/
def AddsUp (start : ℤ) (ns : List Number) : Prop :=
  ∀ (earlier : List ℤ) (x : Binary64) (later : List Number),
    ns = earlier.map Number.int ++ .float x :: later →
      Binary64.InRange (start + earlier.sum) ∧ ∀ m, .int m ∈ later → Binary64.InRange m

theorem addsUp_nil : AddsUp start [] := fun _ _ _ h => absurd h (by simp)

theorem addsUp_int {m : ℤ} : AddsUp start (.int m :: ns) ↔ AddsUp (start + m) ns := by
  constructor
  · rintro h earlier x later rfl
    rw [add_assoc, ← List.sum_cons]
    exact h (m :: earlier) x later rfl
  · intro h earlier x later hns
    cases earlier with
    | nil => exact absurd (List.cons.inj hns).1 nofun
    | cons first earlier =>
        obtain ⟨hfirst, hrest⟩ := List.cons.inj hns
        rw [← Number.int.inj hfirst, List.sum_cons, ← add_assoc]
        exact h earlier x later hrest

theorem addsUp_float {x : Binary64} : AddsUp start (.float x :: ns) ↔
    Binary64.InRange start ∧ ∀ m, .int m ∈ ns → Binary64.InRange m := by
  constructor
  · intro h
    simpa using h [] x ns rfl
  · intro h earlier y later hns
    cases earlier with
    | nil =>
        rw [← (List.cons.inj hns).2]
        simpa using h
    | cons first earlier => exact absurd (List.cons.inj hns).1 nofun

theorem add?_int_float (m : ℤ) (x : Binary64) :
    (Number.int m).add? (.float x) = (Binary64.ofInt? m).map fun y => .float (y.add x) := by
  cases h : Binary64.ofInt? m <;> simp [Number.add?, Number.toFloat?, h]

theorem add?_float_int (x : Binary64) (m : ℤ) :
    (Number.float x).add? (.int m) = (Binary64.ofInt? m).map fun y => .float (x.add y) := by
  cases h : Binary64.ofInt? m <;> simp [Number.add?, Number.toFloat?, h]

/-- Every integer in range can be added to a double-precision number. -/
theorem isSome_sum_float (ns : List Number) (x : Binary64) :
    (ns.foldlM Number.add? (.float x)).isSome = true ↔
      ∀ m, .int m ∈ ns → Binary64.InRange m := by
  induction ns generalizing x with
  | nil => simp
  | cons n ns ih =>
      rw [List.foldlM_cons]
      cases n with
      | float y =>
          apply (ih (x.add y)).trans
          simp
      | int m =>
          rw [add?_float_int]
          cases h : Binary64.ofInt? m with
          | none =>
              have hout : ¬ Binary64.InRange m := by simp [← Binary64.ofInt?_isSome_iff, h]
              exact iff_of_false Bool.false_ne_true fun hall => hout (hall m List.mem_cons_self)
          | some y =>
              have hin : Binary64.InRange m := by simp [← Binary64.ofInt?_isSome_iff, h]
              apply (ih (x.add y)).trans
              simp [hin]

/-- Numbers have a sum exactly if they can be added one after the other. -/
theorem isSome_sum (ns : List Number) (start : ℤ) :
    (ns.foldlM Number.add? (.int start)).isSome = true ↔ AddsUp start ns := by
  induction ns generalizing start with
  | nil => exact iff_of_true rfl addsUp_nil
  | cons n ns ih =>
      rw [List.foldlM_cons]
      cases n with
      | int m => exact (ih (start + m)).trans addsUp_int.symm
      | float x =>
          rw [addsUp_float, add?_int_float, ← Binary64.ofInt?_isSome_iff start]
          cases h : Binary64.ofInt? start with
          | none => exact iff_of_false Bool.false_ne_true fun hin => Bool.false_ne_true hin.1
          | some y => exact (isSome_sum_float ns (y.add x)).trans (and_iff_right rfl).symm

instance : DecidablePred (AddsUp start) := fun ns => decidable_of_iff _ (isSome_sum ns start)

theorem Tally.empty_sum : Tally.empty.sum = .int 0 := rfl

/-- What is gathered of numbers exists exactly if their sum does, and has it. -/
theorem sum_foldlM_add (ns : List Number) (t : Tally) :
    (ns.foldlM Tally.add t).toOption.map Tally.sum = ns.foldlM Number.add? t.sum := by
  induction ns generalizing t with
  | nil => rfl
  | cons n ns ih =>
      rw [List.foldlM_cons, List.foldlM_cons, Tally.add]
      cases t.sum.add? n with
      | none => rfl
      | some sum => exact ih _

theorem exists_gathered : (∃ t, ns.foldlM Tally.add Tally.empty = .ok t) ↔ AddsUp 0 ns := by
  have hsum := sum_foldlM_add ns Tally.empty
  rw [← isSome_sum, ← Tally.empty_sum, ← hsum, Option.isSome_map]
  cases ns.foldlM Tally.add Tally.empty with
  | error e => simp [Except.toOption]
  | ok t => simp [Except.toOption]

end Sums

section Order

variable {m n : Number}

/-- A number is less than or equal to another, compared exactly. -/
def Number.AtMost (m n : Number) : Prop :=
  ∃ p q, m.place? = some p ∧ n.place? = some q ∧ p.height ≤ q.height

theorem Number.AtMost.trans {k : Number} (hkm : k.AtMost m) (hmn : m.AtMost n) : k.AtMost n := by
  obtain ⟨p, q, hk, hm, hpq⟩ := hkm
  obtain ⟨q', r, hm', hn, hqr⟩ := hmn
  obtain rfl := Option.some.inj (hm.symm.trans hm')
  exact ⟨p, r, hk, hn, hpq.trans hqr⟩

theorem Number.atMost_total (hm : m.place?.isSome = true) (hn : n.place?.isSome = true) :
    m.AtMost n ∨ n.AtMost m := by
  obtain ⟨p, hp⟩ := Option.isSome_iff_exists.mp hm
  obtain ⟨q, hq⟩ := Option.isSome_iff_exists.mp hn
  rcases le_total p.height q.height with h | h
  · exact .inl ⟨p, q, hp, hq, h⟩
  · exact .inr ⟨q, p, hq, hp, h⟩

theorem Number.less_iff (hm : m.place?.isSome = true) (hn : n.place?.isSome = true) :
    n.less m = true ↔ ¬ m.AtMost n := by
  obtain ⟨p, hp⟩ := Option.isSome_iff_exists.mp hm
  obtain ⟨q, hq⟩ := Option.isSome_iff_exists.mp hn
  have hatMost : m.AtMost n ↔ p.height ≤ q.height := by simp [AtMost, hp, hq]
  have hcompare : n.compare? m = some (q.compare p) := by
    rw [compare?, hp, hq]
    rfl
  rw [hatMost, not_le, ← (q.compare_compares p).eq_lt, less, hcompare, beq_iff_eq, Option.some_inj]

/-- A preference among the numbers that have a place, and the test for a number that is to replace
another. -/
structure Ranks (R : Number → Number → Prop) (better : Number → Number → Bool) : Prop where
  trans : ∀ {k m n}, R k m → R m n → R k n
  total : ∀ {m n}, m.place?.isSome = true → n.place?.isSome = true → R m n ∨ R n m
  better_iff : ∀ {m n}, m.place?.isSome = true → n.place?.isSome = true →
    (better n m = true ↔ ¬ R m n)

theorem ranks_least : Ranks Number.AtMost Number.less where
  trans := Number.AtMost.trans
  total := Number.atMost_total
  better_iff := Number.less_iff

theorem ranks_greatest : Ranks (fun m n => n.AtMost m) (fun n m => m.less n) where
  trans hkm hmn := hmn.trans hkm
  total hm hn := Number.atMost_total hn hm
  better_iff hm hn := Number.less_iff hn hm

/-- What is found of numbers by a preference: the first of those preferred to all, and nothing if
there are none. -/
def Foremost (R : Number → Number → Prop) (ns : List Number) : Option Number → Prop
  | none => ns = []
  | some m => ∃ before after, ns = before ++ m :: after ∧ (∀ n ∈ ns, R m n) ∧ ∀ n ∈ before, ¬ R n m

variable {R : Number → Number → Prop} {better : Number → Number → Bool} {ns : List Number}

/-- One more number is found if it is better than the one found before. -/
theorem Ranks.foremost_concat (hranks : Ranks R better) {found : Option Number}
    (hplaced : ∀ k ∈ ns ++ [n], k.place?.isSome = true) :
    Foremost R ns found → Foremost R (ns ++ [n]) (some (match found with
      | none => n
      | some m => if better n m then n else m)) := by
  intro h
  have hn := hplaced n (by simp)
  have hself : R n n := (hranks.total hn hn).elim id id
  cases found with
  | none =>
      obtain rfl : ns = [] := h
      exact ⟨[], [], rfl, by simpa using hself, by simp⟩
  | some m =>
      obtain ⟨before, after, hns, hall, hbefore⟩ := h
      have hm := hplaced m (by simp [hns])
      dsimp only
      split_ifs with hbetter
      · have hnot : ¬ R m n := (hranks.better_iff hm hn).mp hbetter
        have hover : R n m := (hranks.total hm hn).resolve_left hnot
        have hothers : ∀ k ∈ ns, R n k := fun k hk => hranks.trans hover (hall k hk)
        refine ⟨ns, [], rfl, ?_, ?_⟩
        · exact List.forall_mem_append.mpr ⟨hothers, List.forall_mem_singleton.mpr hself⟩
        · intro k hk hkn
          exact hnot (hranks.trans (hall k hk) hkn)
      · have hover : R m n := not_not.mp (mt (hranks.better_iff hm hn).mpr hbetter)
        refine ⟨before, after ++ [n], by simp [hns], ?_, hbefore⟩
        exact List.forall_mem_append.mpr ⟨hall, List.forall_mem_singleton.mpr hover⟩

/-- What is gathered of numbers has the first of the least and the first of the greatest. -/
theorem foremost_of_gathered {t : Tally} (hplaced : ∀ n ∈ ns, n.place?.isSome = true)
    (h : ns.foldlM Tally.add Tally.empty = .ok t) :
    Foremost Number.AtMost ns t.least ∧ Foremost (fun m n => n.AtMost m) ns t.greatest := by
  induction ns using List.reverseRecOn generalizing t with
  | nil =>
      rw [← pure_eq_ok.mp h]
      exact ⟨rfl, rfl⟩
  | append_singleton ns n ih =>
      rw [List.foldlM_append] at h
      obtain ⟨before, hbefore, hadd⟩ := bind_eq_ok.mp h
      obtain ⟨hleast, hgreatest⟩ := ih (fun k hk => hplaced k (List.mem_append_left _ hk)) hbefore
      rw [List.foldlM_cons] at hadd
      obtain ⟨after, hafter, hdone⟩ := bind_eq_ok.mp hadd
      obtain rfl := pure_eq_ok.mp hdone
      unfold Tally.add at hafter
      split at hafter
      · cases hafter
      · obtain rfl := pure_eq_ok.mp hafter
        exact ⟨ranks_least.foremost_concat hplaced hleast,
          ranks_greatest.foremost_concat hplaced hgreatest⟩

end Order

section Entries

variable {item : SelectItem} {f : AggregateFunction} {argument : Argument} {label : Option String}
  {rows : List Record}

/-- The numbers that a function shows rather than others. -/
def AggregateFunction.Prefers : AggregateFunction → Number → Number → Prop
  | .least => Number.AtMost
  | .greatest => fun m n => n.AtMost m
  | _ => fun _ _ => False

/-- The value of the least or of the greatest number found. -/
theorem result_foremost (hf : f = .least ∨ f = .greatest) {ns : List Number} {t : Tally}
    (hplaced : ∀ n ∈ ns, n.place?.isSome = true) (h : ns.foldlM Tally.add Tally.empty = .ok t) :
    ∃ found, f.result t = .ok ((found.map Value.number).getD .null) ∧
      Foremost f.Prefers ns found := by
  obtain ⟨hleast, hgreatest⟩ := foremost_of_gathered hplaced h
  rcases hf with rfl | rfl
  · exact ⟨t.least, rfl, hleast⟩
  · exact ⟨t.greatest, rfl, hgreatest⟩

theorem foldlM_gather_eq (hitem : item.shape = .aggregate f argument label)
    (hf : f = .least ∨ f = .greatest) (rows : List Record) :
    rows.foldlM item.gather Tally.empty =
      (numbersIn argument.name rows).foldlM Tally.add Tally.empty := by
  apply foldlM_gather_numbers hitem
  rintro rfl
  rcases hf with hf | hf <;> cases hf

theorem function?_eq (hitem : item.shape = .aggregate f argument label) :
    item.function? = some f := by
  rw [SelectItem.function?, hitem]

/-- An entry alone gathers what it gathers among others. -/
theorem foldlM_takeIn_singleton (rows : List Record) (t : Tally) :
    rows.foldlM (takeIn [item]) [t] = (rows.foldlM item.gather t).map fun t => [t] := by
  induction rows generalizing t with
  | nil => rfl
  | cons row rows ih =>
      have hstep : takeIn [item] [t] row = (item.gather t row).map fun t => [t] := by
        rw [takeIn, List.zip_cons_cons, List.mapM_cons]
        cases item.gather t row <;> rfl
      rw [List.foldlM_cons, List.foldlM_cons, hstep]
      cases item.gather t row with
      | error e => rfl
      | ok next => exact ih next

theorem groupRow_singleton (hitem : item.shape = .aggregate f argument label) {t : Tally}
    {v : Value} (hgather : rows.foldlM item.gather Tally.empty = .ok t)
    (hresult : f.result t = .ok v) : groupRow [item] rows = .ok [(item.outputName, v)] := by
  have htallies : talliesOf [item] rows = .ok [t] := by
    apply (foldlM_takeIn_singleton rows Tally.empty).trans
    rw [hgather]
    rfl
  rw [groupRow, htallies, ok_bind, Group.row, List.zip_cons_cons, List.foldlM_cons,
    SelectItem.show, function?_eq hitem]
  dsimp only
  rw [hresult]
  rfl

/-- Looking for the least or the greatest number can break off only where the numbers are added. -/
theorem aggregate_singleton_failsWith (hitem : item.shape = .aggregate f argument label)
    (hf : f = .least ∨ f = .greatest) (columns : List String) (rows : List Record) :
    FailsWith (· = .integerExceedsFloat) (aggregate [item] columns rows) := by
  have hshow (first : Option Record) (t : Tally) (output : Record) :
      ∃ row, item.show first t output = .ok row := by
    rw [SelectItem.show, function?_eq hitem]
    rcases hf with rfl | rfl <;> exact ⟨_, rfl⟩
  refine FailsWith.bind ?_ fun groups => ?_
  · exact FailsWith.foldlM (fun groups row => addToGroups_failsWith [item] _ row groups) _ _
  · refine FailsWith.mapM (fun g => ?_) _
    rw [Group.row]
    cases g.tallies with
    | nil => exact .ok _
    | cons t rest =>
        obtain ⟨row, hrow⟩ := hshow g.first t []
        rw [List.zip_cons_cons, List.foldlM_cons, hrow]
        exact .ok _

/-- It does break off if they do not add up. -/
theorem aggregate_singleton_breaks_off (hitem : item.shape = .aggregate f argument label)
    (hf : f = .least ∨ f = .greatest) (hadds : ¬ AddsUp 0 (numbersIn argument.name rows)) :
    aggregate [item] [] rows = .error .integerExceedsFloat := by
  cases haggregate : aggregate [item] [] rows with
  | error e => rw [aggregate_singleton_failsWith hitem hf [] rows e haggregate]
  | ok out =>
      have hgroups := aggregate_eq_ok.mp haggregate
      rw [rowGroups_nil] at hgroups
      obtain ⟨row, -, hrow, -, rfl⟩ := List.forall₂_cons_left_iff.mp hgroups
      have hamong : groupRow ([] ++ item :: []) rows = .ok row := hrow
      obtain ⟨t, -, -, ht, -, -⟩ := exists_show (by simp) hamong
      rw [foldlM_gather_eq hitem hf] at ht
      exact absurd (exists_gathered.mp ⟨t, ht⟩) hadds

/-- The numbers of a group are numbers of the column. -/
theorem mem_numbersIn_of_group {columns : List String} {column : String} {group : List Record}
    {n : Number} (hgroup : group ∈ rowGroups columns rows) (hn : n ∈ numbersIn column group) :
    n ∈ numbersIn column rows := by
  have hrows {row : Record} (hrow : row ∈ group) : row ∈ rows :=
    (rowGroups_grouped columns rows).exhaust.mem_iff.mp (List.mem_flatten_of_mem hgroup hrow)
  rw [numbersIn, List.mem_filterMap] at hn ⊢
  obtain ⟨v, hv, hnumber⟩ := hn
  obtain ⟨row, hrow, rfl⟩ := List.mem_map.mp hv
  exact ⟨row.get column, List.mem_map_of_mem (hrows hrow), hnumber⟩

/-- Whatever else is shown of the groups, the least or greatest number of each is right. -/
theorem get?_groupRow_extreme {before after : List SelectItem} {row : Record}
    (hitem : item.shape = .aggregate f argument label) (hf : f = .least ∨ f = .greatest)
    (hlast : ∀ later ∈ after, later.outputName ≠ item.outputName)
    (hplaced : ∀ n ∈ numbersIn argument.name rows, n.place?.isSome = true)
    (h : groupRow (before ++ item :: after) rows = .ok row) :
    ∃ found, Foremost f.Prefers (numbersIn argument.name rows) found ∧
      row.get? item.outputName = some ((found.map Value.number).getD .null) := by
  obtain ⟨t, output, shown, ht, hshown, hrow⟩ := exists_show hlast h
  rw [foldlM_gather_eq hitem hf] at ht
  obtain ⟨found, hresult, hfound⟩ := result_foremost hf hplaced ht
  rw [SelectItem.show, function?_eq hitem] at hshown
  dsimp only at hshown
  rw [hresult, ok_bind] at hshown
  refine ⟨found, hfound, ?_⟩
  rw [hrow, ← pure_eq_ok.mp hshown, Record.get?_put, if_pos rfl]

/-- The least or greatest number of a column, where all its numbers have a place. If the numbers
add up it is shown, and is null exactly if there are none; otherwise it is a number of the column,
at most, or at least, every other one, and the first of those equal to it. If they do not, the
aggregation breaks off. Among other entries and for each of several groups, whatever is shown is
right. -/
theorem aggregate_extreme (hitem : item.shape = .aggregate f argument label)
    (hf : f = .least ∨ f = .greatest)
    (hplaced : ∀ n ∈ numbersIn argument.name rows, n.place?.isSome = true) :
    (AddsUp 0 (numbersIn argument.name rows) →
      ∃ found, Foremost f.Prefers (numbersIn argument.name rows) found ∧
        aggregate [item] [] rows =
          .ok [[(item.outputName, (found.map Value.number).getD .null)]]) ∧
      (¬ AddsUp 0 (numbersIn argument.name rows) →
        aggregate [item] [] rows = .error .integerExceedsFloat) ∧
      ∀ before after columns out, (∀ later ∈ after, later.outputName ≠ item.outputName) →
        aggregate (before ++ item :: after) columns rows = .ok out →
        List.Forall₂ (fun group row => ∃ found,
            Foremost f.Prefers (numbersIn argument.name group) found ∧
              row.get? item.outputName = some ((found.map Value.number).getD .null))
          (rowGroups columns rows) out := by
  refine ⟨?shown, ?fails, ?among⟩
  case shown =>
    intro hadds
    obtain ⟨t, ht⟩ := exists_gathered.mpr hadds
    obtain ⟨found, hresult, hfound⟩ := result_foremost hf hplaced ht
    rw [← foldlM_gather_eq hitem hf] at ht
    exact ⟨found, hfound, aggregate_no_columns.mpr (groupRow_singleton hitem ht hresult)⟩
  case fails => exact aggregate_singleton_breaks_off hitem hf
  case among =>
    intro before after columns out hlast haggregate
    have hgroups := aggregate_eq_ok.mp haggregate
    have hall : ∀ group ∈ rowGroups columns rows,
        ∀ n ∈ numbersIn argument.name group, n.place?.isSome = true := fun group hgroup n hn =>
      hplaced n (mem_numbersIn_of_group hgroup hn)
    exact ((List.forall₂_and_left _ _).mpr ⟨hall, hgroups⟩).imp fun _ _ h =>
      get?_groupRow_extreme hitem hf hlast h.1 h.2

/-- Integers and double-precision numbers of any size that add up, among values that are none. -/
theorem aggregate_extreme_mixed :
    let item : SelectItem := ⟨"MIN(a)", .aggregate .least (.column "a") none⟩
    let rows : List Record := [[("a", .ofInt (2 ^ 70))], [("a", .string "0")], [],
      [("a", .ofFloat (.finite true (3 * powerOfTwo 1073)))], [("a", .bool false)],
      [("a", .null)], [("a", .ofInt (-1))]]
    ∃ found, Foremost AggregateFunction.least.Prefers (numbersIn "a" rows) found ∧
      aggregate [item] [] rows = .ok [[("MIN(a)", (found.map Value.number).getD .null)]] := by
  intro item rows
  have hitem : item.shape = .aggregate .least (.column "a") none := rfl
  have hplaced : ∀ n ∈ numbersIn "a" rows, n.place?.isSome = true := by decide +kernel
  have hadds : AddsUp 0 (numbersIn "a" rows) := by decide +kernel
  exact (aggregate_extreme hitem (.inl rfl) hplaced).1 hadds

/-- The least of two numbers is not shown, because an integer is too large to be added to a number
in double precision. -/
theorem aggregate_extreme_breaks_off :
    let item : SelectItem := ⟨"MIN(a)", .aggregate .least (.column "a") none⟩
    let rows : List Record := [[("a", .ofInt (10 ^ 400))],
      [("a", .ofFloat (.finite false (3 * powerOfTwo 1073)))]]
    (∀ n ∈ numbersIn "a" rows, n.place?.isSome = true) ∧
      aggregate [item] [] rows = .error .integerExceedsFloat := by
  intro item rows
  have hitem : item.shape = .aggregate .least (.column "a") none := rfl
  have hadds : ¬ AddsUp 0 (numbersIn "a" rows) := by decide +kernel
  refine ⟨?_, aggregate_singleton_breaks_off hitem (.inl rfl) hadds⟩
  decide +kernel

end Entries

end JsonQuery
