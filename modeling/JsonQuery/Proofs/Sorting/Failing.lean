import JsonQuery.Proofs.Sorting.Rearrangement

/-!
A sort fails only as a comparison does. Every step of it that can fail compares two elements,
so the property of the faults of comparisons is carried from the searches to the merges, and
from the merges to the whole sort.
-/

namespace JsonQuery.Sorting

open Outcome

variable {ε α : Type} {P : ε → Prop}

section Searches

variable {stop : α → Except ε Bool}

theorem bisect_failsWith (hstop : ∀ x, FailsWith P (stop x)) (early : Bool) (segment : List α) :
    FailsWith P (bisect stop early segment) := by
  fun_induction bisect stop early segment with
  | case1 => exact .ok _
  | case2 segment x behind _ ihfront ihbehind =>
      refine (hstop x).bind fun stopped => ?_
      split
      · exact ihfront
      · exact ihbehind.bind fun _ => .ok _

theorem gallopFrom_failsWith (hstop : ∀ x, FailsWith P (stop x)) (early : Bool) (last : Nat)
    (ahead : List α) : FailsWith P (gallopFrom stop early last ahead) := by
  fun_induction gallopFrom stop early last ahead with
  | case1 last ahead => exact (bisect_failsWith hstop early ahead).bind fun _ => .ok _
  | case2 last ahead x behind _ ih =>
      refine (hstop x).bind fun stopped => ?_
      split
      · exact (bisect_failsWith hstop early _).bind fun _ => .ok _
      · exact ih

theorem gallop_failsWith (hstop : ∀ x, FailsWith P (stop x)) (early : Bool) (segment : List α) :
    FailsWith P (gallop stop early segment) := by
  cases segment with
  | nil => exact .ok _
  | cons x ahead =>
      refine (hstop x).bind fun stopped => ?_
      split
      · exact .ok _
      · exact gallopFrom_failsWith hstop early 0 ahead

end Searches

section Merges

variable {movesFirst : α → α → Except ε Bool}

theorem gallopHeld_failsWith (hmoves : ∀ x y, FailsWith P (movesFirst x y)) (backward : Bool)
    (s : MergeState α) : FailsWith P (gallopHeld movesFirst backward s) := by
  unfold gallopHeld
  split
  · exact .ok _
  · refine (gallop_failsWith (fun x => hmoves x _) backward s.held).bind fun count => ?_
    dsimp only
    split
    · exact .ok _
    · exact .ok _

theorem gallopMoved_failsWith (hmoves : ∀ x y, FailsWith P (movesFirst x y)) (backward : Bool)
    (s : MergeState α) : FailsWith P (gallopMoved movesFirst backward s) := by
  unfold gallopMoved
  split
  · exact .ok _
  · refine (gallop_failsWith (fun y => ?_) backward s.moved).bind fun count => ?_
    · exact (hmoves _ y).bind fun _ => .ok _
    · dsimp only
      split
      · exact .ok _
      · exact .ok _

theorem gallopRound_failsWith (hmoves : ∀ x y, FailsWith P (movesFirst x y)) (backward : Bool)
    (s : MergeState α) : FailsWith P (gallopRound movesFirst backward s) := by
  have hheld := gallopHeld_failsWith hmoves backward
  have hmoved := gallopMoved_failsWith hmoves backward
  unfold gallopRound
  split
  · refine (hmoved s).bind fun found => ?_
    dsimp only
    split
    · exact .ok _
    · exact (hheld _).bind fun _ => .ok _
  · refine (hheld s).bind fun found => ?_
    dsimp only
    split
    · exact .ok _
    · exact (hmoved _).bind fun _ => .ok _

theorem mergeLoop_failsWith (hmoves : ∀ x y, FailsWith P (movesFirst x y)) (backward : Bool)
    (fuel : Nat) (mode : MergeMode) (wins : Nat) (s : MergeState α) :
    FailsWith P (mergeLoop movesFirst backward fuel mode wins s) := by
  induction fuel generalizing mode wins s with
  | zero => exact .ok _
  | succ fuel ih =>
      unfold mergeLoop
      split
      · exact .ok _
      · split
        · refine (hmoves _ _).bind fun first => ?_
          split
          · exact ih _ _ _
          · exact ih _ _ _
        · refine (gallopRound_failsWith hmoves backward s).bind fun found => ?_
          dsimp only
          split
          · exact .ok _
          · split
            · exact ih _ _ _
            · exact ih _ _ _
        · exact .ok _

end Merges

section Runs

variable {less : α → α → Except ε Bool}

theorem mergeRuns_failsWith (hless : ∀ x y, FailsWith P (less x y)) (wins : Nat)
    (a b : List α) : FailsWith P (mergeRuns less wins a b) := by
  unfold mergeRuns
  split
  · exact .ok _
  · rename_i firstB _
    refine (gallop_failsWith (hless firstB) false a).bind fun kept => ?_
    split
    · exact .ok _
    · rename_i lastA othersA _
      refine (gallop_failsWith (fun y => hless y lastA) true _).bind fun trailing => ?_
      dsimp only
      split
      · exact .ok _
      · split
        · refine FailsWith.bind ?_ fun _ => .ok _
          exact mergeLoop_failsWith (fun x y => hless y x) false _ _ _ _
        · refine FailsWith.bind ?_ fun _ => .ok _
          exact mergeLoop_failsWith hless true _ _ _ _

theorem mergeWhileHigher_failsWith (hless : ∀ x y, FailsWith P (less x y)) (power : Nat)
    (runs : List (Run α)) (wins : Nat) : FailsWith P (mergeWhileHigher less power runs wins) := by
  fun_induction mergeWhileHigher less power runs wins with
  | case1 b a below wins _ ih =>
      exact (mergeRuns_failsWith hless wins _ _).bind fun merged => ih merged.1 merged.2
  | case2 => exact .ok _
  | case3 => exact .ok _

theorem mergeAll_failsWith (hless : ∀ x y, FailsWith P (less x y)) (runs : List (Run α))
    (wins : Nat) : FailsWith P (mergeAll less runs wins) := by
  fun_induction mergeAll less runs wins with
  | case1 | case2 => exact .ok _
  | case3 b a wins => exact (mergeRuns_failsWith hless wins _ _).bind fun _ => .ok _
  | case4 c b a below wins _ ih | case5 c b a below wins _ ih =>
      exact (mergeRuns_failsWith hless wins _ _).bind fun merged => ih merged.1 merged.2

theorem prepare_failsWith (hless : ∀ x y, FailsWith P (less x y)) (length newLength : Nat)
    (runs : List (Run α)) (wins : Nat) :
    FailsWith P (prepare less length newLength runs wins) := by
  unfold prepare
  split
  · exact .ok _
  · refine (mergeWhileHigher_failsWith hless _ _ wins).bind fun merged => ?_
    dsimp only
    split
    · exact .ok _
    · exact .ok _

theorem runLength_failsWith (hless : ∀ x y, FailsWith P (less x y)) (descending : Bool)
    (before : α) (rest : List α) : FailsWith P (runLength less descending before rest) := by
  induction rest generalizing before with
  | nil => exact .ok _
  | cons x rest ih =>
      refine (hless x before).bind fun isLess => ?_
      split
      · exact (ih x).bind fun _ => .ok _
      · exact .ok _

theorem frontRun_failsWith (hless : ∀ x y, FailsWith P (less x y)) (xs : List α) :
    FailsWith P (frontRun less xs) := by
  unfold frontRun
  split
  · exact .ok _
  · exact .ok _
  · refine (hless _ _).bind fun descending => ?_
    exact (runLength_failsWith hless descending _ _).bind fun _ => .ok _

theorem insertAll_failsWith (hless : ∀ x y, FailsWith P (less x y)) (sorted rest : List α) :
    FailsWith P (insertAll less sorted rest) := by
  induction rest generalizing sorted with
  | nil => exact .ok _
  | cons x rest ih => exact (bisect_failsWith (hless x) false sorted).bind fun place => ih _

theorem sortRuns_failsWith (hless : ∀ x y, FailsWith P (less x y)) (length least fuel : Nat)
    (rest : List α) (runs : List (Run α)) (wins : Nat) :
    FailsWith P (sortRuns less length least fuel rest runs wins) := by
  induction fuel generalizing rest runs wins with
  | zero => exact (mergeAll_failsWith hless runs wins).bind fun _ => .ok _
  | succ fuel ih =>
      rw [sortRuns]
      split
      · exact mergeAll_failsWith hless runs wins
      · refine (frontRun_failsWith hless rest).bind fun found => ?_
        refine (insertAll_failsWith hless _ _).bind fun front => ?_
        exact (prepare_failsWith hless _ _ _ _).bind fun prepared => ih _ _ _

/-- A sort fails only as a comparison does. -/
theorem sort_failsWith (hless : ∀ x y, FailsWith P (less x y)) (xs : List α) :
    FailsWith P (sort less xs) := by
  unfold sort
  split
  · exact .ok _
  · exact sortRuns_failsWith hless _ _ _ _ _ _

theorem sortDescending_failsWith (hless : ∀ x y, FailsWith P (less x y)) (xs : List α) :
    FailsWith P (sortDescending less xs) :=
  (sort_failsWith hless xs.reverse).bind fun _ => .ok _

end Runs

end JsonQuery.Sorting
