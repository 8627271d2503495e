import JsonQuery.Proofs.Query.Sorted
import JsonQuery.Proofs.Value.Mixed
import Mathlib.Tactic

/-!
Sorting by a column that holds values of several kinds. As long as no text in the column stands
between the texts of two of its numbers the wrong way round, the rows come out in the order of
their values in either direction, as they do in a column of one kind. The key by which they are
sorted is how many values of the column come before their own.
-/

namespace JsonQuery

open Outcome Sorting Value

variable {column : String} {rows : List Record}

/-- Sorting by a column whose values are compared by a key returns, and in either direction the
rows with a value come first and are stably sorted. -/
theorem sortRows_of_comparesBy {κ : Type} [LinearOrder κ] {key : Value → κ} {S : Value → Prop}
    (hkey : ComparesBy key S) (hrows : ∀ row ∈ withValue column rows, S (row.get column))
    (direction : Direction) :
    ∃ sorted,
      sortRows (some ⟨column, direction⟩) rows = .ok (sorted ++ withoutValue column rows) ∧
      StablySorted ⟨column, direction⟩ rows sorted := by
  have hdecides : Decides (fun a b : Record => (a.get column).before (b.get column))
      (fun row => key (row.get column)) (· ∈ withValue column rows) := fun a b ha hb =>
    decides_before hkey a b (hrows a ha) (hrows b hb)
  cases direction with
  | ascending =>
      obtain ⟨sorted, hsort, hup, hties⟩ := sort_stable hdecides
      refine ⟨sorted, ?_, stablySorted hkey hrows (hup.imp ?_) hties⟩
      · rw [sortRows_ascending, hsort, ok_bind]
      · rintro a b hle o ho rfl
        exact absurd hle (not_le_of_gt (ho.eq_gt.mp rfl))
  | descending =>
      obtain ⟨sorted, hsort, hdown, hties⟩ := sortDescending_stable hdecides
      refine ⟨sorted, ?_, stablySorted hkey hrows ((List.pairwise_reverse.mp hdown).imp ?_) hties⟩
      · rw [sortRows_descending, hsort, ok_bind]
      · rintro a b hle o ho rfl
        exact absurd hle (not_le_of_gt (ho.eq_lt.mp rfl))

/-- Comparison never contradicts itself when it is turned round, and any two sort keys of a column
can be compared. It is transitive on the sort keys exactly if no text among them stands between
two of their numbers the wrong way round. Then rows with such values are sorted, in either
direction, so that each compares with every later one as the direction says. -/
theorem sortKeys_ordered {values : List Value} (h : SortKeys values) :
    (∀ a b : Value, b.compare a = (a.compare b).map Ordering.swap) ∧
      (∀ a ∈ values, ∀ b ∈ values, ∃ o, a.compare b = .ok o) ∧
      (TransitiveOn values ↔ ¬ Inverted values) ∧
      (¬ Inverted values → ∀ (column : String) (rows : List Record),
        (∀ row ∈ withValue column rows, row.get column ∈ values) → ∀ direction, ∃ sorted,
          sortRows (some ⟨column, direction⟩) rows = .ok (sorted ++ withoutValue column rows) ∧
          StablySorted ⟨column, direction⟩ rows sorted) := by
  have hreturns : ∀ a ∈ values, ∀ b ∈ values, ∃ o, a.compare b = .ok o := by
    intro a ha b hb
    obtain ⟨o, ho, -⟩ := h.compares ha hb
    exact ⟨o, ho⟩
  refine ⟨compare_turned, hreturns, h.transitiveOn_iff, ?_⟩
  intro hinverted column rows hrows direction
  exact sortRows_of_comparesBy
    (comparesBy_rank hreturns (h.transitiveOn_iff.mpr hinverted)) hrows direction

/-- The number 9 comes before the number 10, and that compares equal to the text of 10, which
stands between the texts of the two numbers. Yet 9 comes behind this text. -/
theorem compare_not_transitive :
    SortKeys [.ofInt 9, .ofInt 10, .string "10"] ∧
      AtMost (.ofInt 9) (.ofInt 10) ∧ AtMost (.ofInt 10) (.string "10") ∧
      ¬ AtMost (.ofInt 9) (.string "10") := by
  have hfit : ∀ v ∈ [Value.ofInt 9, .ofInt 10, .string "10"], v.integersFit = true := by
    decide +kernel
  have hkeys : SortKeys [.ofInt 9, .ofInt 10, .string "10"] := by
    refine ⟨?_, .inr hfit⟩
    simp only [List.forall_mem_cons]
    exact ⟨⟨.numeric, rfl⟩, ⟨.numeric, rfl⟩, ⟨.text, rfl⟩, by simp⟩
  have hequal : Value.compare (.ofInt 10) (.string "10") = .ok .eq :=
    compare_of_fit (hfit _ (by simp)) (hfit _ (by simp)) (.inr rfl)
  have hbehind : Value.compare (.ofInt 9) (.string "10") = .ok .gt :=
    compare_of_fit (hfit _ (by simp)) (hfit _ (by simp)) (.inr rfl)
  refine ⟨hkeys, ⟨.lt, by decide +kernel, by decide⟩, ⟨.eq, hequal, by decide⟩, ?_⟩
  rintro ⟨o, ho, hne⟩
  exact hne (Except.ok.inj (ho.symm.trans hbehind))

/-- No text stands between the texts of 10 and 2, so a column of these numbers, a truth value and
a text behind the texts of both is sorted. -/
theorem sortRows_unlike_values :
    let values : List Value := [.ofInt 10, .string "b", .bool true, .ofInt 2]
    SortKeys values ∧ ¬ Inverted values ∧ ∃ sorted,
      sortRows (some ⟨"a", .ascending⟩) (values.map fun v => [("a", v)]) = .ok sorted ∧
      StablySorted ⟨"a", .ascending⟩ (values.map fun v => [("a", v)]) sorted := by
  intro values
  have hkeys : SortKeys values := by
    refine ⟨?_, .inr (by decide +kernel)⟩
    simp only [values, List.forall_mem_cons]
    exact ⟨⟨.numeric, rfl⟩, ⟨.text, rfl⟩, ⟨.truth, rfl⟩, ⟨.numeric, rfl⟩, by simp⟩
  have hinverted : ¬ Inverted values := by
    rintro ⟨t, ht, m, hm, n, hn, hinverts⟩
    have htext : t = .string "b" := by
      have hall : ∀ v ∈ values, ValueKind.text.includes v = true → v = .string "b" := by
        simp [values, ValueKind.includes, Value.ofInt]
      exact hall t ht hinverts.text
    have hbefore : m.written < Value.written (.string "b") := by
      have hall : ∀ v ∈ values, ValueKind.numeric.includes v = true →
          compareCollated v.plainText "b" = .lt := by
        simp only [values, List.forall_mem_cons]
        exact ⟨fun _ => rfl, fun h => absurd h Bool.false_ne_true,
          fun h => absurd h Bool.false_ne_true, fun _ => rfl, by simp⟩
      exact (compareCollated_compares m.plainText "b").eq_lt.mp (hall m hm hinverts.lesser)
    rw [htext] at hinverts
    exact absurd hinverts.le_written hbefore.not_ge
  obtain ⟨-, -, -, hsorts⟩ := sortKeys_ordered hkeys
  obtain ⟨sorted, hsort, hsorted⟩ := hsorts hinverted "a" (values.map fun v => [("a", v)])
    (by
      intro row hrow
      obtain ⟨v, hv, rfl⟩ := List.mem_map.mp (List.mem_of_mem_filter hrow)
      exact hv) .ascending
  refine ⟨hkeys, hinverted, sorted, ?_, hsorted⟩
  rw [hsort]
  exact congrArg Except.ok (List.append_nil sorted)

end JsonQuery
