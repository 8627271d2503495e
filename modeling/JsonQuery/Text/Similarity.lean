import JsonQuery.Text.Basic

/-!
How similar two short texts are: twice the characters they share over all they have. What
they share is their longest common part, and again on both sides of it.
-/

namespace JsonQuery.Text

/-- The number of characters two texts begin with in common. -/
def sharedStart : List Char → List Char → Nat
  | a :: as, b :: bs => if a == b then sharedStart as bs + 1 else 0
  | _, _ => 0

/-- The longest part two texts have in common: where it begins in either and how long it
is. Of parts of one length the first one in `as` counts, and of those the first in `bs`. -/
def longestShared (as bs : List Char) : Nat × Nat × Nat :=
  (List.range as.length).foldl (fun best i =>
    (List.range bs.length).foldl (fun best j =>
      let size := sharedStart (as.drop i) (bs.drop j)
      if best.2.2 < size then (i, j, size) else best) best) (0, 0, 0)

/-- How many characters two texts share, given a bound on how often a shared part is looked
for within another. -/
def sharedCount : Nat → List Char → List Char → Nat
  | 0, _, _ => 0
  | bound + 1, as, bs =>
      match longestShared as bs with
      | (_, _, 0) => 0
      | (i, j, size) =>
          sharedCount bound (as.take i) (bs.take j) + size +
            sharedCount bound (as.drop (i + size)) (bs.drop (j + size))

/-- How similar two texts are, as a fraction. Each part looked into is shorter than the one
before, so the length of the first is bound enough. -/
def similarity (a b : String) : Nat × Nat :=
  (2 * sharedCount a.toList.length a.toList b.toList, a.toList.length + b.toList.length)

/-- The candidates that come close to a word, at most three of them and the closest ones
first. -/
def closeMatches (word : String) (candidates : List String) : List String :=
  let scored := candidates.map fun candidate => (similarity candidate word, candidate)
  let close := scored.filter fun s => 3 * s.1.2 ≤ 5 * s.1.1
  let ordered := close.mergeSort fun s t =>
    let left := s.1.1 * t.1.2
    let right := t.1.1 * s.1.2
    right < left || left == right && (compareText t.2 s.2).isLE
  (ordered.take 3).map (·.2)

end JsonQuery.Text
