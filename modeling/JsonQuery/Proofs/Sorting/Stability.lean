import JsonQuery.Proofs.Sorting.Merging

/-!
Sorting by a key is stable. If the comparison says which of two keys is less, the sort
returns, and its result is the one ascending list with the ties of the list it was given;
the sort the other way round returns the one descending list with these ties. The proof
follows the sort: natural runs, the insertion that extends them, the merge of two runs,
the stack of runs. Every part keeps the ties of what it works on, so only its order has to
be looked at.
-/

namespace JsonQuery.Sorting

open Outcome

variable {ε α κ : Type} [LinearOrder κ] {key : α → κ} {S : α → Prop}
  {less : α → α → Except ε Bool}

/-- The elements on the way from a set decide alike when the order of keys is turned
round and the arguments change places. -/
theorem Decides.dual (h : Decides less key S) :
    Decides (fun a b => less b a) (OrderDual.toDual ∘ key) S := by
  intro a b ha hb
  exact h b a hb ha

section Runs

/-- The number of elements that continue a run, with the order they are found in. -/
theorem runLength_eq (hless : Decides less key S) (descending : Bool) {before : α}
    {rest : List α} (hbefore : S before) (hrest : ∀ x ∈ rest, S x) :
    ∃ n, runLength less descending before rest = .ok n ∧ n ≤ rest.length ∧
      List.IsChain (fun a b => decide (key b < key a) = descending) (before :: rest.take n) := by
  induction rest generalizing before with
  | nil => exact ⟨0, rfl, le_rfl, .singleton before⟩
  | cons x rest ih =>
      have hx : S x := hrest x List.mem_cons_self
      rw [runLength, hless x before hx hbefore, ok_bind]
      by_cases hgoes : decide (key x < key before) = descending
      · obtain ⟨n, hrun, hn, hchain⟩ := ih hx fun y hy => hrest y (List.mem_cons_of_mem x hy)
        rw [if_pos (by simp [hgoes]), hrun]
        refine ⟨n + 1, rfl, by simpa using hn, ?_⟩
        rw [List.take_succ_cons]
        exact .cons_cons hgoes hchain
      · rw [if_neg (by simpa using hgoes)]
        exact ⟨0, rfl, Nat.zero_le _, .singleton before⟩

/-- A natural run is not empty, and once a descending one is turned round it ascends and has
the ties it had. -/
theorem frontRun_ascends (hless : Decides less key S) {xs : List α} (hxs : ∀ x ∈ xs, S x)
    (hne : xs ≠ []) :
    ∃ n descending, frontRun less xs = .ok (n, descending) ∧ 0 < n ∧
      Ascends key (if descending then (xs.take n).reverse else xs.take n) ∧
      SameTies key (xs.take n) (if descending then (xs.take n).reverse else xs.take n) := by
  match xs with
  | [] => exact absurd rfl hne
  | [x] =>
      exact ⟨1, false, rfl, Nat.one_pos, List.pairwise_singleton _ _, .refl _⟩
  | first :: second :: rest =>
      have hfirst : S first := hxs first (by simp)
      have hsecond : S second := hxs second (by simp)
      have hrest : ∀ x ∈ rest, S x := fun x hx => hxs x (by simp [hx])
      obtain ⟨n, hrun, -, hchain⟩ :=
        runLength_eq hless (decide (key second < key first)) hsecond hrest
      refine ⟨2 + n, decide (key second < key first), ?_, by omega, ?_⟩
      · rw [frontRun, hless second first hsecond hfirst, ok_bind, hrun]
        rfl
      · have hwhole : List.IsChain
            (fun a b => decide (key b < key a) = decide (key second < key first))
            (first :: second :: rest.take n) := .cons_cons rfl hchain
        rw [Nat.add_comm 2 n, List.take_succ_cons, List.take_succ_cons]
        by_cases hdown : key second < key first
        · have hstrict : (first :: second :: rest.take n).Pairwise fun a b => key b < key a := by
            have hchain' : List.IsChain (fun a b => key b < key a)
                (first :: second :: rest.take n) := by
              refine hwhole.imp ?_
              intro a b hab
              exact of_decide_eq_true (hab.trans (decide_eq_true hdown))
            have : Trans (fun a b : α => key b < key a) (fun a b => key b < key a)
              (fun a b => key b < key a) := ⟨fun hab hbc => lt_trans hbc hab⟩
            exact List.isChain_iff_pairwise.mp hchain'
          rw [decide_eq_true hdown, if_pos rfl]
          constructor
          · exact List.pairwise_reverse.mpr (hstrict.imp fun hab => hab.le)
          · exact SameTies.turn (hstrict.imp fun hab => hab.ne')
        · have hup : Ascends key (first :: second :: rest.take n) := by
            have hchain' : List.IsChain (fun a b => key a ≤ key b)
                (first :: second :: rest.take n) := by
              refine hwhole.imp ?_
              intro a b hab
              exact not_lt.mp (of_decide_eq_false (hab.trans (decide_eq_false hdown)))
            have : Trans (fun a b : α => key a ≤ key b) (fun a b => key a ≤ key b)
              (fun a b => key a ≤ key b) := ⟨fun hab hbc => le_trans hab hbc⟩
            exact List.isChain_iff_pairwise.mp hchain'
          rw [decide_eq_false hdown, if_neg (by simp)]
          exact ⟨hup, .refl _⟩

/-- Inserting elements one after the other into an ascending list. -/
theorem insertAll_ascends (hless : Decides less key S) {sorted rest : List α}
    (hsorted : ∀ x ∈ sorted, S x) (hrest : ∀ x ∈ rest, S x) (h : Ascends key sorted) :
    ∃ out, insertAll less sorted rest = .ok out ∧ Ascends key out ∧
      SameTies key (sorted ++ rest) out := by
  induction rest generalizing sorted with
  | nil =>
      refine ⟨sorted, rfl, h, ?_⟩
      rw [List.append_nil]
      exact .refl sorted
  | cons x rest ih =>
      have hx : S x := hrest x List.mem_cons_self
      obtain ⟨place, hbisect, -, hle, hgt⟩ := exists_cut_above hless hx hsorted h
      rw [insertAll, hbisect false, ok_bind]
      have hsplit : sorted.take place ++ sorted.drop place = sorted :=
        List.take_append_drop place sorted
      have hascends : Ascends key (sorted.take place ++ x :: sorted.drop place) := by
        rw [← hsplit, Ascends.append_iff] at h
        obtain ⟨hfront, hback, hbetween⟩ := h
        refine Ascends.append_iff.mpr ⟨hfront, Ascends.cons_iff.mpr ⟨?_, hback⟩, ?_⟩
        · exact fun y hy => (hgt y hy).le
        · intro a ha b hb
          rcases List.mem_cons.mp hb with heq | htail
          · rw [heq]
            exact hle a ha
          · exact hbetween a ha b htail
      have hties : SameTies key (sorted ++ [x]) (sorted.take place ++ x :: sorted.drop place) := by
        have hswap : SameTies key (sorted.drop place ++ [x]) ([x] ++ sorted.drop place) := by
          apply SameTies.swap
          intro y hy z hz
          rw [List.mem_singleton.mp hz]
          exact (hgt y hy).ne'
        have hinsert := hswap.append_left (sorted.take place)
        rwa [← List.append_assoc, hsplit] at hinsert
      have hmem : ∀ y ∈ sorted.take place ++ x :: sorted.drop place, S y := by
        intro y hy
        rcases List.mem_append.mp (hties.mem_iff.mpr hy) with hold | hnew
        · exact hsorted y hold
        · rw [List.mem_singleton.mp hnew]
          exact hx
      obtain ⟨out, hout, hup, hkeep⟩ :=
        ih hmem (fun y hy => hrest y (List.mem_cons_of_mem x hy)) hascends
      refine ⟨out, hout, hup, ?_⟩
      have hall := (hties.append_right rest).trans hkeep
      rwa [List.append_assoc] at hall

end Runs

section Merges

/-- Between the elements of the first list that come before all of the second, and those of
the second that come after all of the first, the middle may be merged on its own. -/
theorem Ascends.join {before middle front back merged : List α}
    (ha : Ascends key (before ++ middle)) (hb : Ascends key (front ++ back))
    (hmerged : Ascends key merged) (hties : SameTies key (middle ++ front) merged)
    (hbefore : ∀ x ∈ before, ∀ y ∈ front, key x ≤ key y)
    (hback : ∀ x ∈ before ++ middle, ∀ y ∈ back, key x ≤ key y) :
    Ascends key (before ++ merged ++ back) ∧
      SameTies key ((before ++ middle) ++ (front ++ back)) (before ++ merged ++ back) := by
  obtain ⟨hbeforeUp, -, hbeforeMiddle⟩ := Ascends.append_iff.mp ha
  obtain ⟨-, hbackUp, hfrontBack⟩ := Ascends.append_iff.mp hb
  have hmem : ∀ z ∈ merged, z ∈ middle ∨ z ∈ front := by
    intro z hz
    exact List.mem_append.mp (hties.mem_iff.mpr hz)
  constructor
  · refine Ascends.append_iff.mpr
      ⟨Ascends.append_iff.mpr ⟨hbeforeUp, hmerged, ?_⟩, hbackUp, ?_⟩
    · intro x hx z hz
      rcases hmem z hz with hmiddle | hfront
      · exact hbeforeMiddle x hx z hmiddle
      · exact hbefore x hx z hfront
    · intro z hz y hy
      rcases List.mem_append.mp hz with hz | hz
      · exact hback z (List.mem_append_left middle hz) y hy
      · rcases hmem z hz with hmiddle | hfront
        · exact hback z (List.mem_append_right before hmiddle) y hy
        · exact hfrontBack z hfront y hy
  · have hall := (hties.append_left before).append_right back
    simpa only [List.append_assoc] using hall

/-- A forward merge of two lists of which the second has the least element and the first has
the greatest. -/
theorem mergeForward_ascends (hless : Decides less key S) (wins : Nat) {a b : List α}
    {first last : α} (haS : ∀ x ∈ a, S x) (hbS : ∀ y ∈ b, S y) (ha : Ascends key a)
    (hb : Ascends key b) (hfirst : b.head? = some first) (hlast : last ∈ a)
    (hfirstLess : ∀ x ∈ a, key first < key x) (hlastGreater : ∀ y ∈ b, key y < key last) :
    ∃ out left, mergeFrom (fun x y => less y x) false wins a b = .ok (out, left) ∧
      Ascends key out ∧ SameTies key (a ++ b) out := by
  apply mergeFrom_ascends hless haS hbS ha hb
  · intro y hy
    rw [hfirst, Option.mem_some_iff] at hy
    rw [← hy]
    exact hfirstLess
  · intro y hy
    exact ⟨last, hlast, hlastGreater y hy⟩

/-- A backward merge of the same lists. The second one is held, because it keeps its place
at the end on ties. -/
theorem mergeBackward_ascends (hless : Decides less key S) (wins : Nat) {a b : List α}
    {first last : α} (haS : ∀ x ∈ a, S x) (hbS : ∀ y ∈ b, S y) (ha : Ascends key a)
    (hb : Ascends key b) (hfirst : first ∈ b) (hlast : a.reverse.head? = some last)
    (hfirstLess : ∀ x ∈ a, key first < key x) (hlastGreater : ∀ y ∈ b, key y < key last) :
    ∃ out left, mergeFrom (fun x y => less x y) true wins b.reverse a.reverse = .ok (out, left) ∧
      Ascends key out.reverse ∧ SameTies key (a ++ b) out.reverse := by
  have hreversed : ∃ out left,
      mergeFrom (fun x y => less x y) true wins b.reverse a.reverse = .ok (out, left) ∧
        Ascends (OrderDual.toDual ∘ key) out ∧
        SameTies (OrderDual.toDual ∘ key) (b.reverse ++ a.reverse) out := by
    apply mergeFrom_ascends hless.dual
    · exact fun y hy => hbS y (List.mem_reverse.mp hy)
    · exact fun x hx => haS x (List.mem_reverse.mp hx)
    · exact Ascends.dual_reverse_iff.mpr hb
    · exact Ascends.dual_reverse_iff.mpr ha
    · intro x hx y hy
      rw [hlast, Option.mem_some_iff] at hx
      rw [← hx]
      exact hlastGreater y (List.mem_reverse.mp hy)
    · intro x hx
      exact ⟨first, List.mem_reverse.mpr hfirst, hfirstLess x (List.mem_reverse.mp hx)⟩
  obtain ⟨out, left, hmerge, hup, hties⟩ := hreversed
  refine ⟨out, left, hmerge, ?_, ?_⟩
  · rw [← Ascends.dual_reverse_iff, List.reverse_reverse]
    exact hup
  · have hturned : SameTies key (b.reverse ++ a.reverse).reverse out.reverse := hties.reverse
    rwa [← List.reverse_append, List.reverse_reverse] at hturned

/-- Whichever of the two lists is held, a merge of them between what stands before and behind
them is one of the same lists. -/
theorem mergeShorter_ascends (hless : Decides less key S) (wins : Nat) {a b others : List α}
    {first last : α} (haS : ∀ x ∈ a, S x) (hbS : ∀ y ∈ b, S y) (ha : Ascends key a)
    (hb : Ascends key b) (hfirst : b.head? = some first) (hlast : a.reverse = last :: others)
    (hfirstLess : ∀ x ∈ a, key first < key x) (hlastGreater : ∀ y ∈ b, key y < key last)
    (before behind : List α) :
    ∃ merged left,
      (if others.length + 1 ≤ b.length then do
          let (merged, wins) ← mergeFrom (fun x y => less y x) false wins a b
          return (before ++ merged ++ behind, wins)
        else do
          let (merged, wins) ←
            mergeFrom (fun x y => less x y) true wins b.reverse (last :: others)
          return (before ++ merged.reverse ++ behind, wins)) =
        .ok (before ++ merged ++ behind, left) ∧
      Ascends key merged ∧ SameTies key (a ++ b) merged := by
  split
  · have hmem : last ∈ a := by
      rw [← List.mem_reverse, hlast]
      exact List.mem_cons_self
    obtain ⟨merged, left, hmerge, hup, hties⟩ := mergeForward_ascends hless wins haS hbS ha hb
      hfirst hmem hfirstLess hlastGreater
    rw [hmerge, ok_bind]
    exact ⟨merged, left, rfl, hup, hties⟩
  · obtain ⟨merged, left, hmerge, hup, hties⟩ := mergeBackward_ascends hless wins haS hbS ha hb
      (List.mem_of_head? hfirst) (hlast ▸ List.head?_cons) hfirstLess hlastGreater
    rw [hlast] at hmerge
    rw [hmerge, ok_bind]
    exact ⟨merged.reverse, left, rfl, hup, hties⟩

/-- Merging two neighbouring runs, in whichever direction it is done. -/
theorem mergeRuns_ascends (hless : Decides less key S) (wins : Nat) {a b : List α}
    (haS : ∀ x ∈ a, S x) (hbS : ∀ y ∈ b, S y) (ha : Ascends key a) (hb : Ascends key b) :
    ∃ out left, mergeRuns less wins a b = .ok (out, left) ∧ Ascends key out ∧
      SameTies key (a ++ b) out := by
  cases b with
  | nil =>
      refine ⟨a, wins, rfl, ha, ?_⟩
      rw [List.append_nil]
      exact .refl a
  | cons firstB othersB =>
      obtain ⟨kept, -, hkept, hle, hgt⟩ :=
        exists_cut_above hless (hbS firstB List.mem_cons_self) haS ha
      simp only [mergeRuns, hkept false, ok_bind]
      have hsplitA : a.take kept ++ a.drop kept = a := List.take_append_drop kept a
      split
      · rename_i hreverse
        -- no element of the first run has a greater key than the head of the second
        have hall : a.take kept = a := by
          rw [List.reverse_eq_nil_iff.mp hreverse, List.append_nil] at hsplitA
          exact hsplitA
        refine ⟨_, wins, rfl, Ascends.append_iff.mpr ⟨ha, hb, ?_⟩, .refl _⟩
        intro x hx y hy
        exact (hle x (hall.symm ▸ hx)).trans (hb.head_le hy)
      · rename_i lastA othersA hreverse
        have hfirst : ∀ y ∈ firstB :: othersB, key firstB ≤ key y := fun y hy => hb.head_le hy
        generalize hbeq : firstB :: othersB = b at *
        have hlastMem : lastA ∈ a.drop kept := by
          rw [← List.mem_reverse, hreverse]
          exact List.mem_cons_self
        have hreverseA : a.reverse = lastA :: (othersA ++ (a.take kept).reverse) := by
          rw [← List.cons_append, ← hreverse, ← List.reverse_append, hsplitA]
        have hlast : ∀ x ∈ a, key x ≤ key lastA := fun x hx => ha.le_last hreverseA hx
        obtain ⟨trailing, -, htrailing, hge, hlt⟩ :=
          exists_cut_above hless.dual (haS lastA (List.mem_of_mem_drop hlastMem))
            (fun y hy => hbS y (List.mem_reverse.mp hy)) (Ascends.dual_reverse_iff.mpr hb)
        rw [List.take_reverse] at hge
        rw [List.drop_reverse] at hlt
        simp only [htrailing true, ok_bind]
        generalize b.length - trailing = cut at hge hlt ⊢
        have hsplitB : b.take cut ++ b.drop cut = b := List.take_append_drop cut b
        have hfrontLess : ∀ y ∈ b.take cut, key y < key lastA := fun y hy =>
          hlt y (List.mem_reverse.mpr hy)
        have hbackGreater : ∀ y ∈ b.drop cut, key lastA ≤ key y := fun y hy =>
          hge y (List.mem_reverse.mpr hy)
        have hwhole {merged : List α} (hmerged : Ascends key merged)
            (hties : SameTies key (a.drop kept ++ b.take cut) merged) :
            Ascends key (a.take kept ++ merged ++ b.drop cut) ∧
              SameTies key (a ++ b) (a.take kept ++ merged ++ b.drop cut) := by
          have hjoin := Ascends.join (hsplitA.symm ▸ ha) (hsplitB.symm ▸ hb) hmerged hties
            (fun x hx y hy => (hle x hx).trans (hfirst y (List.mem_of_mem_take hy)))
            (fun x hx y hy => (hlast x (hsplitA ▸ hx)).trans (hbackGreater y hy))
          rwa [hsplitA, hsplitB] at hjoin
        have hdropS : ∀ x ∈ a.drop kept, S x := fun x hx => haS x (List.mem_of_mem_drop hx)
        have hfrontS : ∀ y ∈ b.take cut, S y := fun y hy => hbS y (List.mem_of_mem_take hy)
        have hdropUp : Ascends key (a.drop kept) := ha.sublist (List.drop_sublist kept a)
        have hfrontUp : Ascends key (b.take cut) := hb.sublist (List.take_sublist cut b)
        split
        · rename_i hempty
          have hnone : b.take cut = [] := List.isEmpty_iff.mp hempty
          have hself : SameTies key (a.drop kept ++ b.take cut) (a.drop kept) := by
            rw [hnone, List.append_nil]
            exact .refl _
          have hjoin := hwhole hdropUp hself
          rw [hnone, List.nil_append] at hsplitB
          rw [hsplitA, hsplitB] at hjoin
          exact ⟨a ++ b, wins, rfl, hjoin⟩
        · rename_i hfront
          have hhead : (b.take cut).head? = some firstB := by
            rw [List.head?_take, ← hbeq, List.head?_cons, if_neg]
            rintro rfl
            simp at hfront
          obtain ⟨merged, left, hmerge, hup, hties⟩ := mergeShorter_ascends hless wins hdropS
            hfrontS hdropUp hfrontUp hhead hreverse hgt hfrontLess (a.take kept) (b.drop cut)
          exact ⟨_, left, hmerge, hwhole hup hties⟩

end Merges

section Stack

/-- The list ascends and consists of elements of the set. -/
def Ordered (key : α → κ) (S : α → Prop) (xs : List α) : Prop :=
  Ascends key xs ∧ ∀ x ∈ xs, S x

theorem mergeOrdered (hless : Decides less key S) (wins : Nat) {a b : List α}
    (ha : Ordered key S a) (hb : Ordered key S b) :
    ∃ out left, mergeRuns less wins a b = .ok (out, left) ∧ Ordered key S out ∧
      SameTies key (a ++ b) out := by
  obtain ⟨out, left, hmerge, hup, hties⟩ := mergeRuns_ascends hless wins ha.2 hb.2 ha.1 hb.1
  refine ⟨out, left, hmerge, ⟨hup, ?_⟩, hties⟩
  intro x hx
  rcases List.mem_append.mp (hties.mem_iff.mpr hx) with hxa | hxb
  · exact ha.2 x hxa
  · exact hb.2 x hxb

/-- Every run on a stack is ordered. -/
def StackOrdered (key : α → κ) (S : α → Prop) (runs : List (Run α)) : Prop :=
  ∀ run ∈ runs, Ordered key S run.elements

theorem StackOrdered.cons_iff {run : Run α} {below : List (Run α)} :
    StackOrdered key S (run :: below) ↔
      Ordered key S run.elements ∧ StackOrdered key S below :=
  List.forall_mem_cons

theorem mergeWhileHigher_ordered (hless : Decides less key S) (power : Nat)
    {runs : List (Run α)} (wins : Nat) (h : StackOrdered key S runs) :
    ∃ runs' left, mergeWhileHigher less power runs wins = .ok (runs', left) ∧
      StackOrdered key S runs' ∧ SameTies key (contents runs) (contents runs') := by
  fun_induction mergeWhileHigher less power runs wins with
  | case1 b a below wins higher ih =>
      obtain ⟨hb, hrest⟩ := StackOrdered.cons_iff.mp h
      obtain ⟨ha, hbelow⟩ := StackOrdered.cons_iff.mp hrest
      obtain ⟨merged, left, hmerge, hmerged, hties⟩ := mergeOrdered hless wins ha hb
      obtain ⟨runs', left', hloop, hstack, hkeep⟩ :=
        ih merged left (StackOrdered.cons_iff.mpr ⟨hmerged, hbelow⟩)
      rw [hmerge, ok_bind]
      refine ⟨runs', left', hloop, hstack, ?_⟩
      have hjoin := (hties.append_left (contents below)).trans hkeep
      simpa only [contents, List.append_assoc] using hjoin
  | case2 b a below wins higher => exact ⟨_, _, rfl, h, .refl _⟩
  | case3 runs wins short => exact ⟨_, _, rfl, h, .refl _⟩

theorem mergeAll_ascends (hless : Decides less key S) {runs : List (Run α)} (wins : Nat)
    (h : StackOrdered key S runs) :
    ∃ out, mergeAll less runs wins = .ok out ∧ Ascends key out ∧
      SameTies key (contents runs) out := by
  fun_induction mergeAll less runs wins with
  | case1 wins => exact ⟨[], rfl, .nil, .refl _⟩
  | case2 run wins =>
      refine ⟨run.elements, rfl, (StackOrdered.cons_iff.mp h).1.1, ?_⟩
      simpa [contents] using SameTies.refl run.elements
  | case3 b a wins =>
      obtain ⟨hb, hrest⟩ := StackOrdered.cons_iff.mp h
      obtain ⟨ha, -⟩ := StackOrdered.cons_iff.mp hrest
      obtain ⟨merged, left, hmerge, hmerged, hties⟩ := mergeOrdered hless wins ha hb
      rw [hmerge, ok_bind]
      exact ⟨merged, rfl, hmerged.1, by simpa [contents] using hties⟩
  | case4 c b a below wins shorter ih =>
      obtain ⟨hc, hrest⟩ := StackOrdered.cons_iff.mp h
      obtain ⟨hb, hrest⟩ := StackOrdered.cons_iff.mp hrest
      obtain ⟨ha, hbelow⟩ := StackOrdered.cons_iff.mp hrest
      obtain ⟨merged, left, hmerge, hmerged, hties⟩ := mergeOrdered hless wins ha hb
      obtain ⟨out, hall, hup, hkeep⟩ := ih merged left
        (StackOrdered.cons_iff.mpr ⟨hc, StackOrdered.cons_iff.mpr ⟨hmerged, hbelow⟩⟩)
      rw [hmerge, ok_bind]
      refine ⟨out, hall, hup, ?_⟩
      have hjoin := ((hties.append_left (contents below)).append_right c.elements).trans hkeep
      simpa only [contents, List.append_assoc] using hjoin
  | case5 c b a below wins shorter ih =>
      obtain ⟨hc, hrest⟩ := StackOrdered.cons_iff.mp h
      obtain ⟨hb, hrest⟩ := StackOrdered.cons_iff.mp hrest
      obtain ⟨merged, left, hmerge, hmerged, hties⟩ := mergeOrdered hless wins hb hc
      obtain ⟨out, hall, hup, hkeep⟩ := ih merged left (StackOrdered.cons_iff.mpr ⟨hmerged, hrest⟩)
      rw [hmerge, ok_bind]
      refine ⟨out, hall, hup, ?_⟩
      have hjoin := (hties.append_left (contents below ++ a.elements)).trans hkeep
      simpa only [contents, List.append_assoc] using hjoin

theorem prepare_ordered (hless : Decides less key S) (length newLength : Nat)
    {runs : List (Run α)} (wins : Nat) (h : StackOrdered key S runs) :
    ∃ runs' left, prepare less length newLength runs wins = .ok (runs', left) ∧
      StackOrdered key S runs' ∧ SameTies key (contents runs) (contents runs') := by
  unfold prepare
  split
  · exact ⟨[], wins, rfl, h, .refl _⟩
  · rename_i top below
    dsimp only
    generalize boundaryPower length _ _ _ = power
    obtain ⟨merged, left, hmerge, hstack, hkeep⟩ := mergeWhileHigher_ordered hless power wins h
    rw [hmerge, ok_bind]
    dsimp only
    split
    · exact ⟨[], left, rfl, hstack, hkeep⟩
    · obtain ⟨htop, hbelow⟩ := StackOrdered.cons_iff.mp hstack
      exact ⟨_, left, rfl, StackOrdered.cons_iff.mpr ⟨htop, hbelow⟩, hkeep⟩

/-- Cutting the rest into runs and merging them sorts what is on the stack together with what
is left, as long as the bound of steps is at least the number of elements left. -/
theorem sortRuns_ascends (hless : Decides less key S) (length least : Nat) {fuel : Nat}
    {rest : List α} {runs : List (Run α)} (wins : Nat) (hrest : ∀ x ∈ rest, S x)
    (h : StackOrdered key S runs) (hfuel : rest.length ≤ fuel) :
    ∃ out, sortRuns less length least fuel rest runs wins = .ok out ∧ Ascends key out ∧
      SameTies key (contents runs ++ rest) out := by
  induction fuel generalizing rest runs wins with
  | zero =>
      obtain ⟨out, hall, hup, hkeep⟩ := mergeAll_ascends hless wins h
      have hnone : rest = [] := List.length_eq_zero_iff.mp (Nat.le_zero.mp hfuel)
      rw [sortRuns, hall, ok_bind, hnone, List.append_nil, List.append_nil]
      exact ⟨out, rfl, hup, hkeep⟩
  | succ fuel ih =>
      unfold sortRuns
      split
      · rename_i hempty
        rw [List.isEmpty_iff.mp hempty, List.append_nil]
        exact mergeAll_ascends hless wins h
      · rename_i hfull
        have hne : rest ≠ [] := by simpa using hfull
        obtain ⟨natural, descending, hfront, hpos, hrunUp, hrunTies⟩ :=
          frontRun_ascends hless hrest hne
        rw [hfront, ok_bind]
        dsimp only
        generalize hrun : (if descending then (rest.take natural).reverse
          else rest.take natural) = run at hrunUp hrunTies ⊢
        generalize hsize : max natural (min least rest.length) = size
        have hnatural : natural ≤ size := hsize ▸ le_max_left _ _
        have hrunS : ∀ x ∈ run, S x := fun x hx =>
          hrest x (List.mem_of_mem_take (hrunTies.mem_iff.mpr hx))
        have hmoreS : ∀ x ∈ (rest.drop natural).take (size - natural), S x := fun x hx =>
          hrest x (List.mem_of_mem_drop (List.mem_of_mem_take hx))
        obtain ⟨front, hinsert, hfrontUp, hfrontTies⟩ :=
          insertAll_ascends hless hrunS hmoreS hrunUp
        have htake : SameTies key (rest.take size) front := by
          have hsplit : rest.take natural ++ (rest.drop natural).take (size - natural) =
              rest.take size := by
            rw [← List.take_add, Nat.add_sub_cancel' hnatural]
          rw [← hsplit]
          exact (hrunTies.append_right _).trans hfrontTies
        obtain ⟨stack, left, hprepare, hstack, hkeep⟩ := prepare_ordered hless length size wins h
        have hfrontS : ∀ x ∈ front, S x := fun x hx =>
          hrest x (List.mem_of_mem_take (htake.mem_iff.mpr hx))
        rw [hinsert, ok_bind, hprepare, ok_bind]
        dsimp only
        have hlonger : StackOrdered key S (⟨length - rest.length, front, 0⟩ :: stack) :=
          StackOrdered.cons_iff.mpr ⟨⟨hfrontUp, hfrontS⟩, hstack⟩
        have hleftS : ∀ x ∈ rest.drop size, S x := fun x hx =>
          hrest x (List.mem_of_mem_drop hx)
        have hshorter : (rest.drop size).length ≤ fuel := by
          rw [List.length_drop]
          omega
        obtain ⟨out, hout, hup, hties⟩ := ih left hleftS hlonger hshorter
        refine ⟨out, hout, hup, SameTies.trans ?_ hties⟩
        have hjoin := ((hkeep.append htake).append_right (rest.drop size))
        rwa [List.append_assoc, List.take_append_drop] at hjoin

end Stack

/-- A sort by a key returns the ascending list with the ties of the list it was given. -/
theorem sort_stable {xs : List α} (hless : Decides less key (· ∈ xs)) :
    ∃ out, sort less xs = .ok out ∧ Ascends key out ∧ SameTies key xs out := by
  unfold sort
  split
  · rename_i hshort
    refine ⟨xs, rfl, ?_, .refl xs⟩
    match xs, hshort with
    | [], _ => exact .nil
    | [x], _ => exact List.pairwise_singleton _ _
  · exact sortRuns_ascends hless xs.length (minRun xs.length false) gallopThreshold
      (fun _ hx => hx) (fun _ hrun => absurd hrun List.not_mem_nil) le_rfl

/-- A sort the other way round returns the descending list with the ties of the list it was
given. -/
theorem sortDescending_stable {xs : List α} (hless : Decides less key (· ∈ xs)) :
    ∃ out, sortDescending less xs = .ok out ∧ Ascends key out.reverse ∧ SameTies key xs out := by
  have hreversed : Decides less key (· ∈ xs.reverse) := by
    intro a b ha hb
    exact hless a b (List.mem_reverse.mp ha) (List.mem_reverse.mp hb)
  obtain ⟨sorted, hsort, hup, hties⟩ := sort_stable hreversed
  rw [sortDescending, hsort, ok_bind]
  refine ⟨sorted.reverse, rfl, ?_, ?_⟩
  · rw [List.reverse_reverse]
    exact hup
  · have hturned := hties.reverse
    rwa [List.reverse_reverse] at hturned

/-- A list that ascends already is its own sort. -/
theorem sort_of_ascends {xs : List α} (hless : Decides less key (· ∈ xs)) (h : Ascends key xs) :
    sort less xs = .ok xs := by
  obtain ⟨out, hout, hup, hties⟩ := sort_stable hless
  rw [hout, h.eq_of_sameTies hup hties]

/-- A list that descends already is its own sort the other way round. -/
theorem sortDescending_of_ascends {xs : List α} (hless : Decides less key (· ∈ xs))
    (h : Ascends key xs.reverse) : sortDescending less xs = .ok xs := by
  obtain ⟨out, hout, hup, hties⟩ := sortDescending_stable hless
  rw [hout, List.reverse_injective (h.eq_of_sameTies hup hties.reverse)]

end JsonQuery.Sorting
