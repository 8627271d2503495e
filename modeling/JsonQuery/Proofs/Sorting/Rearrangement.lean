import JsonQuery.Proofs.Outcome
import JsonQuery.Sorting.Basic
import Mathlib.Data.List.Perm.Basic
import Mathlib.Tactic

/-!
Sorting rearranges. Nothing is assumed of the comparison here: it may contradict itself
from one question to the next, and it may fail. Whenever a sort returns, its result
still holds every element of the list exactly as often as the list does. Each part of
the sort has one lemma that says what it does to the multiset of the elements.
-/

namespace JsonQuery.Sorting

open Outcome

variable {ε α : Type}

/-- All elements a merge deals with: those already placed, and those still held and still
to be moved. -/
def MergeState.elements (s : MergeState α) : List α := s.done.reverse ++ s.held ++ s.moved

/-- Passing elements of the held list only moves the mark between placed and held. -/
theorem MergeState.elements_passHeld (s : MergeState α) (count : Nat) :
    (s.passHeld count).elements = s.elements := by
  simp [elements, passHeld]

theorem MergeState.passMoved_perm (s : MergeState α) (count : Nat) :
    (s.passMoved count).elements.Perm s.elements := by
  have hsplit : s.moved = s.moved.take count ++ s.moved.drop count :=
    (List.take_append_drop count s.moved).symm
  have hswap : (s.moved.take count ++ s.held).Perm (s.held ++ s.moved.take count) :=
    List.perm_append_comm
  calc (s.passMoved count).elements
      = s.done.reverse ++ ((s.moved.take count ++ s.held) ++ s.moved.drop count) := by
        simp [elements, passMoved]
    _ |>.Perm (s.done.reverse ++ ((s.held ++ s.moved.take count) ++ s.moved.drop count)) :=
        (hswap.append_right _).append_left _
    _ = s.elements := by
        simp only [elements, List.append_assoc, ← hsplit]

theorem MergeState.finish_perm (s : MergeState α) : s.finish.Perm s.elements := by
  have hswap : (s.moved ++ s.held).Perm (s.held ++ s.moved) := List.perm_append_comm
  simpa [finish, elements] using hswap.append_left s.done.reverse

section Merging

variable {movesFirst : α → α → Except ε Bool} {backward : Bool}

theorem gallopHeld_perm {s s' : MergeState α} {count : Nat}
    (h : gallopHeld movesFirst backward s = .ok (count, s')) :
    s'.elements.Perm s.elements := by
  unfold gallopHeld at h
  split at h
  · obtain ⟨-, rfl⟩ := Prod.mk.inj (pure_eq_ok.mp h)
    exact .refl _
  · obtain ⟨found, -, hrest⟩ := bind_eq_ok.mp h
    have hpass : (s.passHeld found).elements = s.elements := s.elements_passHeld found
    dsimp only at hrest
    split at hrest
    · obtain ⟨-, rfl⟩ := Prod.mk.inj (pure_eq_ok.mp hrest)
      rw [hpass]
    · obtain ⟨-, rfl⟩ := Prod.mk.inj (pure_eq_ok.mp hrest)
      rw [← hpass]
      exact MergeState.passMoved_perm _ 1

theorem gallopMoved_perm {s s' : MergeState α} {count : Nat}
    (h : gallopMoved movesFirst backward s = .ok (count, s')) :
    s'.elements.Perm s.elements := by
  unfold gallopMoved at h
  split at h
  · obtain ⟨-, rfl⟩ := Prod.mk.inj (pure_eq_ok.mp h)
    exact .refl _
  · obtain ⟨found, -, hrest⟩ := bind_eq_ok.mp h
    have hpass : (s.passMoved found).elements.Perm s.elements := s.passMoved_perm found
    dsimp only at hrest
    split at hrest
    · obtain ⟨-, rfl⟩ := Prod.mk.inj (pure_eq_ok.mp hrest)
      exact hpass
    · obtain ⟨-, rfl⟩ := Prod.mk.inj (pure_eq_ok.mp hrest)
      rw [MergeState.elements_passHeld]
      exact hpass

theorem gallopRound_perm {s s' : MergeState α} {heldCount movedCount : Nat}
    (h : gallopRound movesFirst backward s = .ok (heldCount, movedCount, s')) :
    s'.elements.Perm s.elements := by
  unfold gallopRound at h
  split at h
  · obtain ⟨⟨count, middle⟩, hfirst, hrest⟩ := bind_eq_ok.mp h
    have hmiddle := gallopMoved_perm hfirst
    dsimp only at hrest
    split at hrest
    · cases pure_eq_ok.mp hrest
      exact hmiddle
    · obtain ⟨⟨count', last⟩, hsecond, hlast⟩ := bind_eq_ok.mp hrest
      cases pure_eq_ok.mp hlast
      exact (gallopHeld_perm hsecond).trans hmiddle
  · obtain ⟨⟨count, middle⟩, hfirst, hrest⟩ := bind_eq_ok.mp h
    have hmiddle := gallopHeld_perm hfirst
    dsimp only at hrest
    split at hrest
    · cases pure_eq_ok.mp hrest
      exact hmiddle
    · obtain ⟨⟨count', last⟩, hsecond, hlast⟩ := bind_eq_ok.mp hrest
      cases pure_eq_ok.mp hlast
      exact (gallopMoved_perm hsecond).trans hmiddle

/-- A merge loses and invents nothing, in whatever mode it goes on and wherever its bound
of steps ends it. -/
theorem mergeLoop_perm {fuel : Nat} {mode : MergeMode} {wins : Nat} {s : MergeState α}
    {out : List α} {left : Nat}
    (h : mergeLoop movesFirst backward fuel mode wins s = .ok (out, left)) :
    out.Perm s.elements := by
  induction fuel generalizing mode wins s with
  | zero =>
      cases pure_eq_ok.mp h
      exact s.finish_perm
  | succ fuel ih =>
      unfold mergeLoop at h
      split at h
      · cases pure_eq_ok.mp h
        exact s.finish_perm
      · split at h
        · obtain ⟨first, -, hrest⟩ := bind_eq_ok.mp h
          cases first with
          | true => exact (ih hrest).trans (s.passMoved_perm 1)
          | false =>
              have hloop := ih hrest
              rwa [MergeState.elements_passHeld] at hloop
        · obtain ⟨⟨heldCount, movedCount, next⟩, hround, hrest⟩ := bind_eq_ok.mp h
          have hnext := gallopRound_perm hround
          dsimp only at hrest
          split at hrest
          · cases pure_eq_ok.mp hrest
            exact next.finish_perm.trans hnext
          · split at hrest
            · exact (ih hrest).trans hnext
            · exact (ih hrest).trans hnext
        · cases pure_eq_ok.mp h
          exact s.finish_perm

theorem mergeFrom_perm {wins left : Nat} {held moved out : List α}
    (h : mergeFrom movesFirst backward wins held moved = .ok (out, left)) :
    out.Perm (held ++ moved) := by
  have hstart := MergeState.passMoved_perm ⟨[], held, moved⟩ 1
  simpa [MergeState.elements] using (mergeLoop_perm h).trans hstart

end Merging

/-- The elements of the runs on a stack in the order of the list they were cut from. The
latest run, which comes last in the list, is the head of the stack. -/
def contents : List (Run α) → List α
  | [] => []
  | run :: below => contents below ++ run.elements

variable {less : α → α → Except ε Bool}

theorem mergeRuns_perm {wins left : Nat} {a b out : List α}
    (h : mergeRuns less wins a b = .ok (out, left)) : out.Perm (a ++ b) := by
  unfold mergeRuns at h
  split at h
  · cases pure_eq_ok.mp h
    simp
  · rename_i firstB othersB
    obtain ⟨kept, -, hkept⟩ := bind_eq_ok.mp h
    have ha : a.take kept ++ a.drop kept = a := List.take_append_drop kept a
    split at hkept
    · cases pure_eq_ok.mp hkept
      exact .refl _
    · rename_i lastA othersA hreverse
      obtain ⟨trailing, -, htrailing⟩ := bind_eq_ok.mp hkept
      dsimp only at htrailing
      generalize hcut : (firstB :: othersB).length - trailing = cut at htrailing
      have hb : (firstB :: othersB).take cut ++ (firstB :: othersB).drop cut =
          firstB :: othersB := List.take_append_drop cut _
      have hwhole (merged : List α)
          (hmerged : merged.Perm (a.drop kept ++ (firstB :: othersB).take cut)) :
          (a.take kept ++ merged ++ (firstB :: othersB).drop cut).Perm
            (a ++ firstB :: othersB) := by
        calc a.take kept ++ merged ++ (firstB :: othersB).drop cut
            |>.Perm (a.take kept ++ (a.drop kept ++ (firstB :: othersB).take cut) ++
              (firstB :: othersB).drop cut) := (hmerged.append_left _).append_right _
          _ = (a.take kept ++ a.drop kept) ++
              ((firstB :: othersB).take cut ++ (firstB :: othersB).drop cut) := by
            simp only [List.append_assoc]
          _ = a ++ firstB :: othersB := by rw [ha, hb]
      split at htrailing
      · cases pure_eq_ok.mp htrailing
        exact .refl _
      · split at htrailing
        · obtain ⟨⟨merged, after⟩, hmerge, hout⟩ := bind_eq_ok.mp htrailing
          cases pure_eq_ok.mp hout
          exact hwhole merged (mergeFrom_perm hmerge)
        · obtain ⟨⟨merged, after⟩, hmerge, hout⟩ := bind_eq_ok.mp htrailing
          cases pure_eq_ok.mp hout
          apply hwhole
          have hbackward := mergeFrom_perm hmerge
          rw [← hreverse] at hbackward
          calc merged.reverse
              |>.Perm merged := List.reverse_perm merged
            _ |>.Perm (((firstB :: othersB).take cut).reverse ++ (a.drop kept).reverse) :=
                hbackward
            _ = (a.drop kept ++ (firstB :: othersB).take cut).reverse :=
                List.reverse_append.symm
            _ |>.Perm (a.drop kept ++ (firstB :: othersB).take cut) := List.reverse_perm _

theorem mergeWhileHigher_perm {power : Nat} {runs runs' : List (Run α)} {wins left : Nat}
    (h : mergeWhileHigher less power runs wins = .ok (runs', left)) :
    (contents runs').Perm (contents runs) := by
  fun_induction mergeWhileHigher less power runs wins with
  | case1 b a below wins higher ih =>
      obtain ⟨⟨merged, after⟩, hmerge, hrest⟩ := bind_eq_ok.mp h
      have hjoin := (mergeRuns_perm hmerge).append_left (contents below)
      refine (ih merged after hrest).trans ?_
      simpa [contents] using hjoin
  | case2 b a below wins higher =>
      cases pure_eq_ok.mp h
      exact .refl _
  | case3 runs wins short =>
      cases pure_eq_ok.mp h
      exact .refl _

theorem mergeAll_perm {runs : List (Run α)} {wins : Nat} {out : List α}
    (h : mergeAll less runs wins = .ok out) : out.Perm (contents runs) := by
  fun_induction mergeAll less runs wins with
  | case1 wins =>
      cases pure_eq_ok.mp h
      exact .refl _
  | case2 run wins =>
      cases pure_eq_ok.mp h
      simp [contents]
  | case3 b a wins =>
      obtain ⟨⟨merged, after⟩, hmerge, hout⟩ := bind_eq_ok.mp h
      cases pure_eq_ok.mp hout
      simpa [contents] using mergeRuns_perm hmerge
  | case4 c b a below wins shorter ih =>
      obtain ⟨⟨merged, after⟩, hmerge, hrest⟩ := bind_eq_ok.mp h
      have hjoin := ((mergeRuns_perm hmerge).append_left (contents below)).append_right
        c.elements
      refine (ih merged after hrest).trans ?_
      simpa [contents] using hjoin
  | case5 c b a below wins shorter ih =>
      obtain ⟨⟨merged, after⟩, hmerge, hrest⟩ := bind_eq_ok.mp h
      have hjoin := (mergeRuns_perm hmerge).append_left (contents below ++ a.elements)
      refine (ih merged after hrest).trans ?_
      simpa [contents] using hjoin

theorem prepare_perm {length newLength : Nat} {runs runs' : List (Run α)} {wins left : Nat}
    (h : prepare less length newLength runs wins = .ok (runs', left)) :
    (contents runs').Perm (contents runs) := by
  unfold prepare at h
  split at h
  · cases pure_eq_ok.mp h
    exact .refl _
  · obtain ⟨⟨merged, after⟩, hmerge, hrest⟩ := bind_eq_ok.mp h
    have hmerged := mergeWhileHigher_perm hmerge
    dsimp only at hrest
    split at hrest
    · cases pure_eq_ok.mp hrest
      exact hmerged
    · cases pure_eq_ok.mp hrest
      exact hmerged

theorem insertAll_perm {sorted rest out : List α} (h : insertAll less sorted rest = .ok out) :
    out.Perm (sorted ++ rest) := by
  induction rest generalizing sorted with
  | nil =>
      cases pure_eq_ok.mp h
      simp
  | cons x rest ih =>
      obtain ⟨place, -, hrest⟩ := bind_eq_ok.mp h
      have hinsert : (sorted.take place ++ x :: sorted.drop place).Perm (x :: sorted) := by
        have hmiddle : (sorted.take place ++ x :: sorted.drop place).Perm
            (x :: (sorted.take place ++ sorted.drop place)) := List.perm_middle
        rwa [List.take_append_drop] at hmiddle
      calc out
          |>.Perm ((sorted.take place ++ x :: sorted.drop place) ++ rest) := ih hrest
        _ |>.Perm ((x :: sorted) ++ rest) := hinsert.append_right rest
        _ |>.Perm (sorted ++ x :: rest) := List.perm_middle.symm

/-- Cutting the rest into runs and merging them rearranges what is on the stack and what is
left. -/
theorem sortRuns_perm {length least fuel wins : Nat} {rest out : List α}
    {runs : List (Run α)} (h : sortRuns less length least fuel rest runs wins = .ok out) :
    out.Perm (contents runs ++ rest) := by
  induction fuel generalizing rest runs wins with
  | zero =>
      obtain ⟨merged, hmerge, hout⟩ := bind_eq_ok.mp h
      cases pure_eq_ok.mp hout
      exact (mergeAll_perm hmerge).append_right rest
  | succ fuel ih =>
      unfold sortRuns at h
      split at h
      · rename_i hempty
        rw [List.isEmpty_iff.mp hempty, List.append_nil]
        exact mergeAll_perm h
      · obtain ⟨⟨natural, descending⟩, -, hfront⟩ := bind_eq_ok.mp h
        dsimp only at hfront
        generalize hsize : max natural (min least rest.length) = size at hfront
        obtain ⟨front, hinsert, hprepare⟩ := bind_eq_ok.mp hfront
        obtain ⟨⟨stack, after⟩, hstack, hrest⟩ := bind_eq_ok.mp hprepare
        have hnatural : natural ≤ size := hsize ▸ le_max_left _ _
        have hturned : (if descending then (rest.take natural).reverse
            else rest.take natural).Perm (rest.take natural) := by
          split
          · exact List.reverse_perm _
          · exact .refl _
        have hsplit : rest.take natural ++ (rest.drop natural).take (size - natural) =
            rest.take size := by
          rw [← List.take_add, Nat.add_sub_cancel' hnatural]
        have hrun : front.Perm (rest.take size) := by
          rw [← hsplit]
          exact (insertAll_perm hinsert).trans (hturned.append_right _)
        calc out
            |>.Perm (contents stack ++ front ++ rest.drop size) := ih hrest
          _ |>.Perm (contents runs ++ rest.take size ++ rest.drop size) :=
              ((prepare_perm hstack).append hrun).append_right _
          _ = contents runs ++ rest := by
              rw [List.append_assoc, List.take_append_drop]

/-- A sort that returns has rearranged its list, whatever its comparison answered. -/
theorem sort_perm {xs out : List α} (h : sort less xs = .ok out) : out.Perm xs := by
  unfold sort at h
  split at h
  · cases pure_eq_ok.mp h
    exact .refl _
  · simpa [contents] using sortRuns_perm h

theorem sortDescending_perm {xs out : List α} (h : sortDescending less xs = .ok out) :
    out.Perm xs := by
  obtain ⟨sorted, hsort, hout⟩ := bind_eq_ok.mp h
  cases pure_eq_ok.mp hout
  exact (List.reverse_perm sorted).trans ((sort_perm hsort).trans (List.reverse_perm xs))

end JsonQuery.Sorting
