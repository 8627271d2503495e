import JsonQuery.Proofs.Sorting.Boundary
import JsonQuery.Proofs.Sorting.Rearrangement
import JsonQuery.Proofs.Sorting.Ties

/-!
Merging two ascending lists gives an ascending list with their ties. A merge under way is
orderly if everything placed comes before everything left, and if every element still to
be moved has a lesser key than some element that is held. Each step of the merge, be it a
single comparison or a round of searches, leads from an orderly state to an orderly one
with the same ties, and leaves less to be placed or nothing to be compared. The same
lemmas serve a merge that goes backward, with the order of the keys turned round.
-/

namespace JsonQuery.Sorting

open Outcome

variable {ε α κ : Type} [LinearOrder κ] {key : α → κ} {S : α → Prop}

/-- On the elements of a set the comparison says which key is less. -/
def Decides (less : α → α → Except ε Bool) (key : α → κ) (S : α → Prop) : Prop :=
  ∀ a b, S a → S b → less a b = .ok (decide (key a < key b))

/-- Both searches cut an ascending list at the same place: before it stand the elements whose
keys are not greater than that of `x`, and behind it those whose keys are. -/
theorem exists_cut_above {less : α → α → Except ε Bool} (hless : Decides less key S) {x : α}
    {xs : List α} (hx : S x) (hxs : ∀ y ∈ xs, S y) (h : Ascends key xs) :
    ∃ count, (∀ early, bisect (less x) early xs = .ok count) ∧
      (∀ early, gallop (less x) early xs = .ok count) ∧
      (∀ y ∈ xs.take count, key y ≤ key x) ∧ ∀ y ∈ xs.drop count, key x < key y := by
  have hboundary : HasBoundary (less x) (fun y => decide (key x < key y)) xs := by
    constructor
    · intro y hy
      exact hless x y hx (hxs y hy)
    · refine List.Pairwise.imp ?_ h
      intro a b hab hxa
      exact decide_eq_true ((of_decide_eq_true hxa).trans_le hab)
  refine ⟨boundary (fun y => decide (key x < key y)) xs, fun early => bisect_eq hboundary,
    fun early => gallop_eq hboundary, ?_, ?_⟩
  · intro y hy
    have hstays := passes_of_mem_take hy
    exact not_lt.mp (of_decide_eq_false hstays)
  · intro y hy
    have hgoes := stops_of_mem_drop hboundary.lasting hy
    exact of_decide_eq_true hgoes

/-- How many elements of a merge are left. -/
def MergeState.remaining (s : MergeState α) : Nat := s.held.length + s.moved.length

/-- What holds of a merge at every step. -/
structure MergeState.Orderly (key : α → κ) (S : α → Prop) (s : MergeState α) : Prop where
  held_mem : ∀ x ∈ s.held, S x
  moved_mem : ∀ y ∈ s.moved, S y
  held_ascends : Ascends key s.held
  moved_ascends : Ascends key s.moved
  done_ascends : Ascends key s.done.reverse
  done_le_held : ∀ d ∈ s.done, ∀ x ∈ s.held, key d ≤ key x
  done_le_moved : ∀ d ∈ s.done, ∀ y ∈ s.moved, key d ≤ key y
  bounded : ∀ y ∈ s.moved, ∃ x ∈ s.held, key y < key x

/-- What a part of a merge does to the state. -/
structure MergeState.Advances (key : α → κ) (S : α → Prop) (s s' : MergeState α) : Prop where
  orderly : s'.Orderly key S
  ties : SameTies key s.elements s'.elements
  remaining_le : s'.remaining ≤ s.remaining

namespace MergeState

variable {s s' s'' : MergeState α}

theorem Advances.trans (h₁ : s.Advances key S s') (h₂ : s'.Advances key S s'') :
    s.Advances key S s'' :=
  ⟨h₂.orderly, h₁.ties.trans h₂.ties, h₂.remaining_le.trans h₁.remaining_le⟩

/-- Elements of the held list may be passed if nothing that is to be moved has a lesser
key. -/
theorem Orderly.passHeld (h : s.Orderly key S) {count : Nat}
    (hcount : ∀ x ∈ s.held.take count, ∀ y ∈ s.moved, key x ≤ key y) :
    s.Advances key S (s.passHeld count) := by
  have hsplit : s.held.take count ++ s.held.drop count = s.held :=
    List.take_append_drop count s.held
  have hascends := h.held_ascends
  rw [← hsplit, Ascends.append_iff] at hascends
  obtain ⟨htake, hdrop, hbefore⟩ := hascends
  refine ⟨?_, ?_, ?_⟩
  · exact {
      held_mem := fun x hx => h.held_mem x (List.mem_of_mem_drop hx)
      moved_mem := h.moved_mem
      held_ascends := hdrop
      moved_ascends := h.moved_ascends
      done_ascends := by
        simp only [MergeState.passHeld, List.reverse_append, List.reverse_reverse]
        refine Ascends.append_iff.mpr ⟨h.done_ascends, htake, ?_⟩
        intro d hd x hx
        exact h.done_le_held d (List.mem_reverse.mp hd) x (List.mem_of_mem_take hx)
      done_le_held := by
        intro d hd x hx
        rcases List.mem_append.mp hd with hnew | hold
        · exact hbefore d (List.mem_reverse.mp hnew) x hx
        · exact h.done_le_held d hold x (List.mem_of_mem_drop hx)
      done_le_moved := by
        intro d hd y hy
        rcases List.mem_append.mp hd with hnew | hold
        · exact hcount d (List.mem_reverse.mp hnew) y hy
        · exact h.done_le_moved d hold y hy
      bounded := by
        intro y hy
        obtain ⟨x, hx, hlt⟩ := h.bounded y hy
        rw [← hsplit] at hx
        -- an element with a greater key than `y` is not among those passed
        rcases List.mem_append.mp hx with hpassed | hleft
        · exact absurd hlt (not_lt.mpr (hcount x hpassed y hy))
        · exact ⟨x, hleft, hlt⟩ }
  · rw [elements_passHeld]
    exact .refl _
  · simp only [remaining, MergeState.passHeld, List.length_drop]
    omega

/-- Elements of the other list may be moved if everything held has a greater key. -/
theorem Orderly.passMoved (h : s.Orderly key S) {count : Nat}
    (hcount : ∀ y ∈ s.moved.take count, ∀ x ∈ s.held, key y < key x) :
    s.Advances key S (s.passMoved count) := by
  have hsplit : s.moved.take count ++ s.moved.drop count = s.moved :=
    List.take_append_drop count s.moved
  have hascends := h.moved_ascends
  rw [← hsplit, Ascends.append_iff] at hascends
  obtain ⟨htake, hdrop, hbefore⟩ := hascends
  refine ⟨?_, ?_, ?_⟩
  · exact {
      held_mem := h.held_mem
      moved_mem := fun y hy => h.moved_mem y (List.mem_of_mem_drop hy)
      held_ascends := h.held_ascends
      moved_ascends := hdrop
      done_ascends := by
        simp only [MergeState.passMoved, List.reverse_append, List.reverse_reverse]
        refine Ascends.append_iff.mpr ⟨h.done_ascends, htake, ?_⟩
        intro d hd y hy
        exact h.done_le_moved d (List.mem_reverse.mp hd) y (List.mem_of_mem_take hy)
      done_le_held := by
        intro d hd x hx
        rcases List.mem_append.mp hd with hnew | hold
        · exact (hcount d (List.mem_reverse.mp hnew) x hx).le
        · exact h.done_le_held d hold x hx
      done_le_moved := by
        intro d hd y hy
        rcases List.mem_append.mp hd with hnew | hold
        · exact hbefore d (List.mem_reverse.mp hnew) y hy
        · exact h.done_le_moved d hold y (List.mem_of_mem_drop hy)
      bounded := fun y hy => h.bounded y (List.mem_of_mem_drop hy) }
  · have hswap : SameTies key (s.held ++ s.moved.take count) (s.moved.take count ++ s.held) := by
      apply SameTies.swap
      intro x hx y hy
      exact (hcount y hy x hx).ne'
    have hmiddle := (hswap.append_right (s.moved.drop count)).append_left s.done.reverse
    simpa [elements, MergeState.passMoved] using hmiddle
  · simp only [remaining, MergeState.passMoved, List.length_drop]
    omega

/-- Once no comparison is left to make, what is left to be moved goes before what is held. -/
theorem Orderly.finish (h : s.Orderly key S) (hsettled : s.isSettled = true) :
    Ascends key s.finish ∧ SameTies key s.elements s.finish := by
  have hlast : ∀ y ∈ s.moved, ∀ x ∈ s.held, key y < key x := by
    intro y hy x hx
    have hone : s.held.length ≤ 1 := by
      simp only [isSettled, Bool.or_eq_true, decide_eq_true_eq, List.isEmpty_iff] at hsettled
      rcases hsettled with hone | hnone
      · exact hone
      · simp [hnone] at hy
    obtain ⟨z, hz, hlt⟩ := h.bounded y hy
    obtain ⟨w, hw⟩ := List.length_eq_one_iff.mp
      (le_antisymm hone (List.length_pos_of_mem hx))
    rw [hw, List.mem_singleton] at hx hz
    rw [hx, ← hz]
    exact hlt
  constructor
  · refine Ascends.append_iff.mpr ⟨Ascends.append_iff.mpr ⟨h.done_ascends, h.moved_ascends, ?_⟩,
      h.held_ascends, ?_⟩
    · intro d hd y hy
      exact h.done_le_moved d (List.mem_reverse.mp hd) y hy
    · intro d hd x hx
      rcases List.mem_append.mp hd with hdone | hmoved
      · exact h.done_le_held d (List.mem_reverse.mp hdone) x hx
      · exact (hlast d hmoved x hx).le
  · have hswap : SameTies key (s.held ++ s.moved) (s.moved ++ s.held) :=
      SameTies.swap fun x hx y hy => (hlast y hy x hx).ne'
    simpa [elements, MergeState.finish] using hswap.append_left s.done.reverse

/-- In a merge that is not settled both lists have a head. -/
theorem cons_of_not_settled (h : s.isSettled = false) :
    ∃ x held y moved, s.held = x :: held ∧ s.moved = y :: moved := by
  simp only [isSettled, Bool.or_eq_false_iff, decide_eq_false_iff_not] at h
  obtain ⟨hheld, hmoved⟩ := h
  cases hx : s.held with
  | nil => simp [hx] at hheld
  | cons x held =>
      cases hy : s.moved with
      | nil => simp [hy] at hmoved
      | cons y moved => exact ⟨x, held, y, moved, rfl, rfl⟩

theorem Orderly.passHeld_one (h : s.Orderly key S) {x : α} {held : List α}
    (hheld : s.held = x :: held) (hx : ∀ y ∈ s.moved, key x ≤ key y) :
    s.Advances key S (s.passHeld 1) ∧ (s.passHeld 1).remaining < s.remaining := by
  constructor
  · apply h.passHeld
    intro z hz
    rw [hheld, List.take_succ_cons, List.take_zero, List.mem_singleton] at hz
    rw [hz]
    exact hx
  · simp [remaining, MergeState.passHeld, hheld]

theorem Orderly.passMoved_one (h : s.Orderly key S) {y : α} {moved : List α}
    (hmoved : s.moved = y :: moved) (hy : ∀ x ∈ s.held, key y < key x) :
    s.Advances key S (s.passMoved 1) ∧ (s.passMoved 1).remaining < s.remaining := by
  constructor
  · apply h.passMoved
    intro z hz
    rw [hmoved, List.take_succ_cons, List.take_zero, List.mem_singleton] at hz
    rw [hz]
    exact hy
  · simp [remaining, MergeState.passMoved, hmoved]

end MergeState

section Steps

variable {movesFirst : α → α → Except ε Bool} {backward : Bool} {s : MergeState α}

/-- Searching the held list for the head of the other one leads to an orderly state, and
leaves less unless nothing is left to compare. -/
theorem gallopHeld_advances (hmoves : Decides (fun y x => movesFirst x y) key S)
    (h : s.Orderly key S) :
    ∃ count s', gallopHeld movesFirst backward s = .ok (count, s') ∧ s.Advances key S s' ∧
      (s'.isSettled = false → s'.remaining < s.remaining) := by
  unfold gallopHeld
  split
  · rename_i hnone
    refine ⟨0, s, rfl, ⟨h, .refl _, le_rfl⟩, ?_⟩
    intro hsettled
    simp [MergeState.isSettled, hnone] at hsettled
  · rename_i y moved hmoved
    have hyS : S y := h.moved_mem y (by simp [hmoved])
    obtain ⟨count, -, hgallop, hle, hgt⟩ :=
      exists_cut_above hmoves hyS h.held_mem h.held_ascends
    have hpass : s.Advances key S (s.passHeld count) := by
      apply h.passHeld
      intro x hx z hz
      exact (hle x hx).trans ((hmoved ▸ h.moved_ascends).head_le (hmoved ▸ hz))
    rw [hgallop backward, ok_bind]
    dsimp only
    split
    · rename_i hsettled
      refine ⟨count, s.passHeld count, rfl, hpass, ?_⟩
      intro hopen
      rw [hsettled] at hopen
      cases hopen
    · obtain ⟨hmove, hless⟩ := hpass.orderly.passMoved_one hmoved hgt
      exact ⟨count, _, rfl, hpass.trans hmove, fun _ => hless.trans_le hpass.remaining_le⟩

/-- Searching the other list for the head of the held one does likewise. -/
theorem gallopMoved_advances (hmoves : Decides (fun y x => movesFirst x y) key S)
    (h : s.Orderly key S) :
    ∃ count s', gallopMoved movesFirst backward s = .ok (count, s') ∧ s.Advances key S s' ∧
      (s'.isSettled = false → s'.remaining < s.remaining) := by
  unfold gallopMoved
  split
  · rename_i hnone
    refine ⟨0, s, rfl, ⟨h, .refl _, le_rfl⟩, ?_⟩
    intro hsettled
    simp [MergeState.isSettled, hnone] at hsettled
  · rename_i x held hheld
    have hxS : S x := h.held_mem x (by simp [hheld])
    have hboundary : HasBoundary (fun y => do return !(← movesFirst x y))
        (fun y => !decide (key y < key x)) s.moved := by
      constructor
      · intro y hy
        have hyx : movesFirst x y = .ok (decide (key y < key x)) :=
          hmoves y x (h.moved_mem y hy) hxS
        rw [hyx]
        rfl
      · refine List.Pairwise.imp ?_ h.moved_ascends
        intro a b hab hax
        simp only [Bool.not_eq_true', decide_eq_false_iff_not, not_lt] at hax ⊢
        exact hax.trans hab
    rw [gallop_eq hboundary, ok_bind]
    generalize hcount : boundary (fun y => !decide (key y < key x)) s.moved = count
    have hpass : s.Advances key S (s.passMoved count) := by
      apply h.passMoved
      intro y hy z hz
      have hyx := passes_of_mem_take (hcount ▸ hy)
      simp only [Bool.not_eq_false', decide_eq_true_eq] at hyx
      exact hyx.trans_le ((hheld ▸ h.held_ascends).head_le (hheld ▸ hz))
    dsimp only
    split
    · rename_i hsettled
      refine ⟨count, s.passMoved count, rfl, hpass, ?_⟩
      intro hopen
      rw [hsettled] at hopen
      cases hopen
    · have hleast : ∀ y ∈ (s.passMoved count).moved, key x ≤ key y := by
        intro y hy
        have hyx := stops_of_mem_drop hboundary.lasting (hcount ▸ hy)
        simpa using hyx
      obtain ⟨hhold, hless⟩ := hpass.orderly.passHeld_one hheld hleast
      exact ⟨count, _, rfl, hpass.trans hhold, fun _ => hless.trans_le hpass.remaining_le⟩

theorem gallopRound_advances (hmoves : Decides (fun y x => movesFirst x y) key S)
    (h : s.Orderly key S) :
    ∃ heldCount movedCount s', gallopRound movesFirst backward s = .ok (heldCount, movedCount, s') ∧
      s.Advances key S s' ∧ (s'.isSettled = false → s'.remaining < s.remaining) := by
  unfold gallopRound
  split
  · obtain ⟨movedCount, middle, hfirst, hmiddle, hless⟩ := gallopMoved_advances hmoves h
    rw [hfirst, ok_bind]
    dsimp only
    split
    · exact ⟨_, _, _, rfl, hmiddle, hless⟩
    · obtain ⟨heldCount, last, hsecond, hlast, hlessLast⟩ :=
        gallopHeld_advances hmoves hmiddle.orderly
      rw [hsecond, ok_bind]
      exact ⟨_, _, _, rfl, hmiddle.trans hlast,
        fun hopen => (hlessLast hopen).trans_le hmiddle.remaining_le⟩
  · obtain ⟨heldCount, middle, hfirst, hmiddle, hless⟩ := gallopHeld_advances hmoves h
    rw [hfirst, ok_bind]
    dsimp only
    split
    · exact ⟨_, _, _, rfl, hmiddle, hless⟩
    · obtain ⟨movedCount, last, hsecond, hlast, hlessLast⟩ :=
        gallopMoved_advances hmoves hmiddle.orderly
      rw [hsecond, ok_bind]
      exact ⟨_, _, _, rfl, hmiddle.trans hlast,
        fun hopen => (hlessLast hopen).trans_le hmiddle.remaining_le⟩

/-- From an orderly state the loop ends with everything in order, in whatever mode it starts.
Its bound of steps suffices because every step leaves less. -/
theorem mergeLoop_ascends {fuel : Nat} {mode : MergeMode} {wins : Nat}
    (hmoves : Decides (fun y x => movesFirst x y) key S) (h : s.Orderly key S)
    (hfuel : s.remaining ≤ fuel) :
    ∃ out left, mergeLoop movesFirst backward fuel mode wins s = .ok (out, left) ∧
      Ascends key out ∧ SameTies key s.elements out := by
  induction fuel generalizing mode wins s with
  | zero =>
      have hsettled : s.isSettled = true := by
        simp only [MergeState.remaining] at hfuel
        simp only [MergeState.isSettled, Bool.or_eq_true, decide_eq_true_eq]
        omega
      exact ⟨s.finish, wins, rfl, h.finish hsettled⟩
  | succ fuel ih =>
      -- what the rest of the loop does behind a step that leaves less
      have hstep {s' : MergeState α} {mode' : MergeMode} {wins' : Nat}
          (hadvance : s.Advances key S s') (hless : s'.remaining < s.remaining) :
          ∃ out left, mergeLoop movesFirst backward fuel mode' wins' s' = .ok (out, left) ∧
            Ascends key out ∧ SameTies key s.elements out := by
        obtain ⟨out, left, hloop, hascends, hties⟩ := ih hadvance.orderly (by omega)
        exact ⟨out, left, hloop, hascends, hadvance.ties.trans hties⟩
      unfold mergeLoop
      split
      · rename_i hsettled
        exact ⟨s.finish, wins, rfl, h.finish hsettled⟩
      · rename_i hopen
        obtain ⟨x, held, y, moved, hheld, hmoved⟩ :=
          MergeState.cons_of_not_settled (Bool.eq_false_of_not_eq_true hopen)
        cases mode with
        | alternating heldWins movedWins =>
            have hxS : S x := h.held_mem x (by simp [hheld])
            have hyS : S y := h.moved_mem y (by simp [hmoved])
            rw [hheld, hmoved]
            simp only [hmoves y x hyS hxS, ok_bind, decide_eq_true_eq]
            split
            · rename_i hlt
              obtain ⟨hadvance, hless⟩ := h.passMoved_one hmoved fun z hz =>
                hlt.trans_le ((hheld ▸ h.held_ascends).head_le (hheld ▸ hz))
              exact hstep hadvance hless
            · rename_i hge
              obtain ⟨hadvance, hless⟩ := h.passHeld_one hheld fun z hz =>
                (not_lt.mp hge).trans ((hmoved ▸ h.moved_ascends).head_le (hmoved ▸ hz))
              exact hstep hadvance hless
        | galloping =>
            obtain ⟨heldCount, movedCount, next, hround, hadvance, hless⟩ :=
              gallopRound_advances hmoves h
            dsimp only
            rw [hround, ok_bind]
            dsimp only
            split
            · rename_i hsettled
              obtain ⟨hascends, hties⟩ := hadvance.orderly.finish hsettled
              exact ⟨next.finish, wins, rfl, hascends, hadvance.ties.trans hties⟩
            · rename_i hopen
              have hleft := hless (Bool.eq_false_of_not_eq_true hopen)
              split
              · exact hstep hadvance hleft
              · exact hstep hadvance hleft

/-- Merging ascending lists of which the head of the second comes first, and some element of
the first comes last. -/
theorem mergeFrom_ascends {wins : Nat} {held moved : List α}
    (hmoves : Decides (fun y x => movesFirst x y) key S)
    (hheldS : ∀ x ∈ held, S x) (hmovedS : ∀ y ∈ moved, S y)
    (hheld : Ascends key held) (hmoved : Ascends key moved)
    (hfirst : ∀ y ∈ moved.head?, ∀ x ∈ held, key y < key x)
    (hlast : ∀ y ∈ moved, ∃ x ∈ held, key y < key x) :
    ∃ out left, mergeFrom movesFirst backward wins held moved = .ok (out, left) ∧
      Ascends key out ∧ SameTies key (held ++ moved) out := by
  have hstart : MergeState.Orderly key S ⟨[], held, moved⟩ :=
    ⟨hheldS, hmovedS, hheld, hmoved, .nil, by simp, by simp, hlast⟩
  have hadvance : MergeState.Advances key S ⟨[], held, moved⟩
      (MergeState.passMoved ⟨[], held, moved⟩ 1) := by
    apply hstart.passMoved
    intro y hy
    apply hfirst
    cases moved with
    | nil => simp at hy
    | cons z rest => simpa [eq_comm] using hy
  obtain ⟨out, left, hloop, hascends, hties⟩ :=
    mergeLoop_ascends hmoves hadvance.orderly hadvance.remaining_le
  refine ⟨out, left, hloop, hascends, ?_⟩
  simpa [MergeState.elements] using hadvance.ties.trans hties

end Steps

end JsonQuery.Sorting
