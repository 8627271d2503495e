import Mathlib.Data.List.Perm.Basic
import Mathlib.Order.OrderDual
import Mathlib.Tactic

/-!
What it means to sort by a key. The keys are compared in a linear order, and different
elements may have equal keys. A list ascends if no element has a lesser key than one
before it. Two lists have the same ties if for every key they hold the same elements with
that key in the same order. An ascending list with the ties of another one is its stable
sort, and there is only one.
-/

namespace JsonQuery.Sorting

variable {α κ : Type} [LinearOrder κ] {key : α → κ}

/-- No element has a lesser key than one before it. -/
def Ascends (key : α → κ) (xs : List α) : Prop := xs.Pairwise fun a b => key a ≤ key b

/-- For every key both lists hold the same elements with that key, in the same order. -/
def SameTies (key : α → κ) (xs ys : List α) : Prop :=
  ∀ k, (xs.filter fun x => key x = k) = ys.filter fun x => key x = k

namespace SameTies

variable {xs ys zs xs' ys' : List α}

theorem refl (xs : List α) : SameTies key xs xs := fun _ => rfl

theorem symm (h : SameTies key xs ys) : SameTies key ys xs := fun k => (h k).symm

theorem trans (h₁ : SameTies key xs ys) (h₂ : SameTies key ys zs) : SameTies key xs zs :=
  fun k => (h₁ k).trans (h₂ k)

theorem append (h₁ : SameTies key xs ys) (h₂ : SameTies key xs' ys') :
    SameTies key (xs ++ xs') (ys ++ ys') := by
  intro k
  rw [List.filter_append, List.filter_append, h₁ k, h₂ k]

theorem append_left (zs : List α) (h : SameTies key xs ys) :
    SameTies key (zs ++ xs) (zs ++ ys) := (refl zs).append h

theorem append_right (zs : List α) (h : SameTies key xs ys) :
    SameTies key (xs ++ zs) (ys ++ zs) := h.append (refl zs)

theorem reverse (h : SameTies key xs ys) : SameTies key xs.reverse ys.reverse := by
  intro k
  rw [List.filter_reverse, List.filter_reverse, h k]

/-- Neighbouring blocks without a common key may change places. -/
theorem swap (h : ∀ x ∈ xs, ∀ y ∈ ys, key x ≠ key y) : SameTies key (xs ++ ys) (ys ++ xs) := by
  intro k
  rw [List.filter_append, List.filter_append]
  by_cases hk : ∃ x ∈ xs, key x = k
  · obtain ⟨x, hx, hxk⟩ := hk
    have hnone : (ys.filter fun y => key y = k) = [] := by
      rw [List.filter_eq_nil_iff]
      intro y hy hyk
      exact h x hx y hy (hxk.trans (of_decide_eq_true hyk).symm)
    rw [hnone, List.append_nil, List.nil_append]
  · have hnone : (xs.filter fun x => key x = k) = [] := by
      rw [List.filter_eq_nil_iff]
      intro x hx hxk
      exact hk ⟨x, hx, of_decide_eq_true hxk⟩
    rw [hnone, List.append_nil, List.nil_append]

/-- A list without ties may be turned round. -/
theorem turn (h : xs.Pairwise fun a b => key a ≠ key b) : SameTies key xs xs.reverse := by
  induction xs with
  | nil => exact refl []
  | cons x xs ih =>
      obtain ⟨hx, hxs⟩ := List.pairwise_cons.mp h
      have hswap : SameTies key ([x] ++ xs) (xs ++ [x]) := by
        apply swap
        intro a ha b hb
        rw [List.mem_singleton.mp ha]
        exact hx b hb
      rw [List.reverse_cons]
      exact hswap.trans ((ih hxs).append_right [x])

/-- Lists with the same ties hold the same elements equally often. -/
theorem perm (h : SameTies key xs ys) : xs.Perm ys := by
  classical
  rw [List.perm_iff_count]
  intro a
  have hcount (zs : List α) : (zs.filter fun z => key z = key a).count a = zs.count a :=
    List.count_filter (by simp)
  rw [← hcount xs, ← hcount ys, h (key a)]

theorem mem_iff (h : SameTies key xs ys) {a : α} : a ∈ xs ↔ a ∈ ys := h.perm.mem_iff

end SameTies

namespace Ascends

variable {xs ys : List α}

theorem nil : Ascends key [] := List.Pairwise.nil

theorem cons_iff {x : α} : Ascends key (x :: xs) ↔ (∀ y ∈ xs, key x ≤ key y) ∧ Ascends key xs :=
  List.pairwise_cons

/-- The head of an ascending list has the least key of all. -/
theorem head_le {x y : α} (h : Ascends key (x :: xs)) (hy : y ∈ x :: xs) : key x ≤ key y := by
  rcases List.mem_cons.mp hy with heq | htail
  · rw [heq]
  · exact (cons_iff.mp h).1 y htail

theorem append_iff : Ascends key (xs ++ ys) ↔
    Ascends key xs ∧ Ascends key ys ∧ ∀ x ∈ xs, ∀ y ∈ ys, key x ≤ key y :=
  List.pairwise_append

theorem sublist (h : Ascends key ys) (hsub : xs.Sublist ys) : Ascends key xs :=
  List.Pairwise.sublist hsub h

/-- What descends in an order ascends in the opposite one. -/
theorem dual_reverse_iff :
    Ascends (OrderDual.toDual ∘ key) xs.reverse ↔ Ascends key xs := by
  unfold Ascends
  rw [List.pairwise_reverse]
  exact Iff.rfl

/-- The last element of an ascending list has the greatest key of all. -/
theorem le_last {x last : α} {others : List α} (h : Ascends key xs)
    (hlast : xs.reverse = last :: others) (hx : x ∈ xs) : key x ≤ key last := by
  have hdescends : Ascends (OrderDual.toDual ∘ key) (last :: others) := by
    rw [← hlast, dual_reverse_iff]
    exact h
  rw [← List.mem_reverse, hlast] at hx
  exact hdescends.head_le hx

/-- An ascending list is determined by its ties. -/
theorem eq_of_sameTies (hx : Ascends key xs) (hy : Ascends key ys) (h : SameTies key xs ys) :
    xs = ys := by
  induction xs generalizing ys with
  | nil => exact (List.nil_perm.mp h.perm).symm
  | cons x xs ih =>
      cases ys with
      | nil => exact List.perm_nil.mp h.perm
      | cons y ys =>
          have hxmem : x ∈ y :: ys := h.mem_iff.mp List.mem_cons_self
          have hymem : y ∈ x :: xs := h.mem_iff.mpr List.mem_cons_self
          -- each head is a least element of the other list, so their keys agree
          have hkey : key x = key y := le_antisymm (hx.head_le hymem) (hy.head_le hxmem)
          have hhead : x = y := by
            have hfirst := h (key x)
            rw [List.filter_cons_of_pos (by simp), List.filter_cons_of_pos (by simp [hkey])]
              at hfirst
            exact (List.cons.inj hfirst).1
          subst hhead
          have htail : SameTies key xs ys := by
            intro k
            have hboth := h k
            by_cases hk : key x = k
            · rw [List.filter_cons_of_pos (by simp [hk]),
                List.filter_cons_of_pos (by simp [hk])] at hboth
              exact (List.cons.inj hboth).2
            · rwa [List.filter_cons_of_neg (by simp [hk]),
                List.filter_cons_of_neg (by simp [hk])] at hboth
          rw [ih (cons_iff.mp hx).2 (cons_iff.mp hy).2 htail]

end Ascends

end JsonQuery.Sorting
