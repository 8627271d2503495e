import JsonQuery.Proofs.Outcome
import JsonQuery.Sorting.Search
import Mathlib.Data.List.TakeWhile
import Mathlib.Tactic

/-!
Searching finds the boundary. If a test stops at no element of a segment and then at every
further one, both searches count exactly the elements before the first stop, wherever
they begin to look and however far they leap. That count is stated with `takeWhile`, the
plain way to find it by looking at every element.
-/

namespace JsonQuery.Sorting

open Outcome

variable {ε α : Type} {stop : α → Except ε Bool} {p : α → Bool}

/-- The test answers `p` on every element, and once it stops it stops ever after. -/
structure HasBoundary (stop : α → Except ε Bool) (p : α → Bool) (segment : List α) : Prop where
  answers : ∀ x ∈ segment, stop x = .ok (p x)
  lasting : segment.Pairwise fun a b => p a → p b

/-- The number of elements before the first one at which the test stops. -/
def boundary (p : α → Bool) (segment : List α) : Nat := (segment.takeWhile fun x => !p x).length

theorem HasBoundary.sublist {xs ys : List α} (h : HasBoundary stop p ys) (hsub : xs.Sublist ys) :
    HasBoundary stop p xs :=
  ⟨fun x hx => h.answers x (hsub.subset hx), h.lasting.sublist hsub⟩

theorem boundary_nil : boundary p [] = 0 := rfl

/-- The boundary lies before an element at which the test stops. -/
theorem boundary_append_of_stop {before behind : List α} {x : α} (hx : p x = true) :
    boundary p (before ++ x :: behind) = boundary p before := by
  unfold boundary
  rw [List.takeWhile_append]
  split
  · rename_i hall
    rw [List.takeWhile_cons_of_neg (by simp [hx]), List.append_nil, hall]
  · rfl

/-- The boundary lies behind an element at which the test passes. -/
theorem boundary_append_of_pass {before behind : List α} {x : α}
    (h : HasBoundary stop p (before ++ x :: behind)) (hx : p x = false) :
    boundary p (before ++ x :: behind) = before.length + 1 + boundary p behind := by
  have hbefore : ∀ a ∈ before, (!p a) = true := by
    intro a ha
    have hlasting := (List.pairwise_append.mp h.lasting).2.2 a ha x List.mem_cons_self
    cases hpa : p a with
    | false => rfl
    | true => exact absurd (hlasting hpa) (by simp [hx])
  unfold boundary
  rw [List.takeWhile_append_of_pos hbefore, List.takeWhile_cons_of_pos (by simp [hx]),
    List.length_append, List.length_cons]
  omega

/-- What lies before the boundary passes. -/
theorem passes_of_mem_take {segment : List α} {x : α}
    (hx : x ∈ segment.take (boundary p segment)) : p x = false := by
  have htake : segment.take (boundary p segment) = segment.takeWhile fun x => !p x :=
    (List.prefix_iff_eq_take.mp (List.takeWhile_prefix _)).symm
  rw [htake] at hx
  simpa using List.mem_takeWhile_imp hx

/-- What lies behind the boundary stops. -/
theorem stops_of_mem_drop {segment : List α} (h : segment.Pairwise fun a b => p a → p b) {x : α}
    (hx : x ∈ segment.drop (boundary p segment)) : p x = true := by
  induction segment with
  | nil => simp at hx
  | cons a rest ih =>
      obtain ⟨ha, hrest⟩ := List.pairwise_cons.mp h
      unfold boundary at hx
      cases hpa : p a with
      | true =>
          rw [List.takeWhile_cons_of_neg (by simp [hpa])] at hx
          rcases List.mem_cons.mp hx with heq | htail
          · rw [heq, hpa]
          · exact ha x htail hpa
      | false =>
          rw [List.takeWhile_cons_of_pos (by simp [hpa]), List.length_cons,
            List.drop_succ_cons] at hx
          exact ih hrest hx

/-- Halving finds the boundary, whichever middle it looks at. -/
theorem bisect_eq {early : Bool} {segment : List α} (h : HasBoundary stop p segment) :
    bisect stop early segment = .ok (boundary p segment) := by
  induction hlength : segment.length using Nat.strong_induction_on generalizing segment with
  | h n ih =>
      rw [bisect.eq_def]
      split
      · rename_i hdrop
        have hempty : segment = [] := by
          have hle := List.drop_eq_nil_iff.mp hdrop
          rw [← List.length_eq_zero_iff]
          unfold middle at hle
          split at hle <;> omega
        rw [hempty]
        rfl
      · rename_i x behind hdrop
        have hsplit : segment.take (middle early segment.length) ++ x :: behind = segment := by
          rw [← hdrop, List.take_append_drop]
        have hlen :
            (segment.take (middle early segment.length)).length + 1 + behind.length = n := by
          rw [← hlength]
          conv_rhs => rw [← hsplit]
          simp only [List.length_append, List.length_cons]
          omega
        have hmiddle : (segment.take (middle early segment.length)).length =
            middle early segment.length := by
          have hlt := List.length_pos_of_ne_nil (by rw [hdrop]; simp :
            segment.drop (middle early segment.length) ≠ [])
          rw [List.length_drop] at hlt
          rw [List.length_take]
          omega
        rw [h.answers x (by rw [← hsplit]; simp), ok_bind]
        cases hx : p x with
        | true =>
            have hbefore : HasBoundary stop p (segment.take (middle early segment.length)) :=
              h.sublist (List.take_sublist _ _)
            rw [if_pos rfl, ih _ (by omega) hbefore rfl, ← boundary_append_of_stop hx, hsplit]
        | false =>
            have hbehind : HasBoundary stop p behind := by
              apply h.sublist
              rw [← hsplit]
              exact (List.sublist_cons_self x behind).trans (List.sublist_append_right _ _)
            have hpass := boundary_append_of_pass (hsplit ▸ h) hx
            rw [hsplit, hmiddle] at hpass
            rw [if_neg (by simp), ih _ (by omega) hbehind rfl, ok_bind, hpass]
            rfl

theorem gallopFrom_eq {early : Bool} {last : Nat} {ahead : List α}
    (h : HasBoundary stop p ahead) :
    gallopFrom stop early last ahead = .ok (last + 1 + boundary p ahead) := by
  induction hlength : ahead.length using Nat.strong_induction_on generalizing last ahead with
  | h n ih =>
      rw [gallopFrom.eq_def]
      split
      · rw [bisect_eq h]
        rfl
      · rename_i x behind hdrop
        have hsplit : ahead.take last ++ x :: behind = ahead := by
          rw [← hdrop, List.take_append_drop]
        have hlast : (ahead.take last).length = last := by
          have hlt := List.length_pos_of_ne_nil (by rw [hdrop]; simp : ahead.drop last ≠ [])
          rw [List.length_drop] at hlt
          rw [List.length_take]
          omega
        rw [h.answers x (by rw [← hsplit]; simp), ok_bind]
        cases hx : p x with
        | true =>
            have hbefore : HasBoundary stop p (ahead.take last) :=
              h.sublist (List.take_sublist _ _)
            rw [if_pos rfl, bisect_eq hbefore, ← boundary_append_of_stop hx, hsplit]
            rfl
        | false =>
            have hbehind : HasBoundary stop p behind := by
              apply h.sublist
              rw [← hsplit]
              exact (List.sublist_cons_self x behind).trans (List.sublist_append_right _ _)
            have hshorter : behind.length < n := by
              rw [← hlength, ← hsplit, List.length_append, List.length_cons]
              omega
            have hpass := boundary_append_of_pass (hsplit ▸ h) hx
            rw [hsplit, hlast] at hpass
            rw [if_neg (by simp), ih _ hshorter hbehind rfl, hpass]
            congr 1
            omega

/-- Leaping ahead and halving finds the boundary. -/
theorem gallop_eq {early : Bool} {segment : List α} (h : HasBoundary stop p segment) :
    gallop stop early segment = .ok (boundary p segment) := by
  cases segment with
  | nil => rfl
  | cons x ahead =>
      rw [gallop, h.answers x List.mem_cons_self, ok_bind]
      cases hx : p x with
      | true =>
          have hstop : boundary p ([] ++ x :: ahead) = boundary p [] :=
            boundary_append_of_stop hx
          rw [List.nil_append, boundary_nil] at hstop
          rw [if_pos rfl, hstop]
          rfl
      | false =>
          have hahead : HasBoundary stop p ahead := h.sublist (List.sublist_cons_self x ahead)
          have hpass : boundary p ([] ++ x :: ahead) = [].length + 1 + boundary p ahead :=
            boundary_append_of_pass h hx
          rw [List.nil_append, List.length_nil] at hpass
          rw [if_neg (by simp), gallopFrom_eq hahead, hpass]

end JsonQuery.Sorting
