import JsonQuery.Sorting.Merge

/-!
A stable sort that takes advantage of order already present. The list is cut into runs
that ascend, or strictly descend and are turned round; short runs are extended by binary
insertion; and neighbouring runs are merged in an order that follows the halving of the
whole list. With a comparison that is no order, the result is still a rearrangement, and
which one is fixed by the comparisons made.
-/

namespace JsonQuery.Sorting

variable {ε α : Type} (less : α → α → Except ε Bool)

/-- How many further elements continue a run: each one less than the one before it in a
descending run, none so in an ascending one. -/
def runLength (descending : Bool) : α → List α → Except ε Nat
  | _, [] => return 0
  | before, x :: rest => do
      if (← less x before) == descending then return (← runLength descending x rest) + 1
      else return 0

/-- The length of the run at the front and whether it descends. -/
def frontRun : List α → Except ε (Nat × Bool)
  | [] => return (0, false)
  | [_] => return (1, false)
  | first :: second :: rest => do
      let descending ← less second first
      return (2 + (← runLength less descending second rest), descending)

/-- Puts the elements one after the other into the sorted list, each behind its equals. -/
def insertAll : List α → List α → Except ε (List α)
  | sorted, [] => return sorted
  | sorted, x :: rest => do
      let place ← bisect (fun y => less x y) false sorted
      insertAll (sorted.take place ++ x :: sorted.drop place) rest

/-- The least length of a run in a list of the given length: all of a short list, and
otherwise a length between 32 and 64 that divides the list into about a power of two
parts. `odd` records whether the halving has dropped a remainder. -/
def minRun (length : Nat) (odd : Bool) : Nat :=
  if length < 64 then length + (if odd then 1 else 0)
  else minRun (length / 2) (odd || length % 2 == 1)
termination_by length

/-- A sorted run waiting to be merged: where it starts in the list, its elements, and the
power of its boundary with the run behind it. -/
structure Run (α : Type) where
  start : Nat
  elements : List α
  power : Nat

/-- The power of a boundary: how often the whole list is halved until the middles of the
two runs fall into different parts. The middles are given doubled, and `bound` limits
the halvings. -/
def boundaryPower (length : Nat) : Nat → Nat → Nat → Nat
  | 0, _, _ => 0
  | bound + 1, a, b =>
      if length ≤ a then boundaryPower length bound (2 * (a - length)) (2 * (b - length)) + 1
      else if length ≤ b then 1
      else boundaryPower length bound (2 * a) (2 * b) + 1

/-- Merges two neighbouring runs. Elements already in place at either end are left out,
and the shorter remainder decides the direction. -/
def mergeRuns (wins : Nat) (a b : List α) : Except ε (List α × Nat) := do
  match b with
  | [] => return (a, wins)
  | firstB :: _ =>
      let kept ← gallop (fun x => less firstB x) false a
      match (a.drop kept).reverse with
      | [] => return (a ++ b, wins)
      | lastA :: othersA =>
          let trailing ← gallop (fun y => less y lastA) true b.reverse
          let front := b.take (b.length - trailing)
          if front.isEmpty then return (a ++ b, wins)
          else if othersA.length + 1 ≤ front.length then
            let (merged, wins) ←
              mergeFrom (fun x y => less y x) false wins (a.drop kept) front
            return (a.take kept ++ merged ++ b.drop (b.length - trailing), wins)
          else
            let (merged, wins) ←
              mergeFrom (fun x y => less x y) true wins front.reverse (lastA :: othersA)
            return (a.take kept ++ merged.reverse ++ b.drop (b.length - trailing), wins)

/-- Merges the two runs on top of the stack while the boundary below them has a higher
power than the new one. The latest run is the head of the stack. -/
def mergeWhileHigher (power : Nat) : List (Run α) → Nat → Except ε (List (Run α) × Nat)
  | b :: a :: below, wins => do
      if power < a.power then
        let (merged, wins) ← mergeRuns less wins a.elements b.elements
        mergeWhileHigher power (⟨a.start, merged, b.power⟩ :: below) wins
      else return (b :: a :: below, wins)
  | runs, wins => return (runs, wins)
termination_by runs => runs.length

/-- Merges all runs on the stack, the shorter neighbour of the second one first. -/
def mergeAll : List (Run α) → Nat → Except ε (List α)
  | [], _ => return []
  | [run], _ => return run.elements
  | [b, a], wins => do
      let (merged, _) ← mergeRuns less wins a.elements b.elements
      return merged
  | c :: b :: a :: below, wins => do
      if a.elements.length < c.elements.length then
        let (merged, wins) ← mergeRuns less wins a.elements b.elements
        mergeAll (c :: ⟨a.start, merged, b.power⟩ :: below) wins
      else
        let (merged, wins) ← mergeRuns less wins b.elements c.elements
        mergeAll (⟨b.start, merged, c.power⟩ :: a :: below) wins
termination_by runs => runs.length

/-- Records the power of the boundary between the run on top and a new run of the given
length, after the merges it calls for. -/
def prepare (length newLength : Nat) (runs : List (Run α)) (wins : Nat) :
    Except ε (List (Run α) × Nat) := do
  match runs with
  | [] => return ([], wins)
  | top :: _ =>
      let a := 2 * top.start + top.elements.length
      let power := boundaryPower length (bitBound length) a (a + top.elements.length + newLength)
      let (runs, wins) ← mergeWhileHigher less power runs wins
      match runs with
      | [] => return ([], wins)
      | top :: below => return (⟨top.start, top.elements, power⟩ :: below, wins)
where
  /-- More halvings than any boundary of a list of this length needs. -/
  bitBound (length : Nat) : Nat := Nat.log2 length + 3

/-- Cuts the rest of the list into runs and merges them as they come. -/
def sortRuns (length least : Nat) : Nat → List α → List (Run α) → Nat → Except ε (List α)
  | 0, rest, runs, wins => return (← mergeAll less runs wins) ++ rest
  | fuel + 1, rest, runs, wins => do
      if rest.isEmpty then mergeAll less runs wins
      else
        let (natural, descending) ← frontRun less rest
        let front := rest.take natural
        let front := if descending then front.reverse else front
        let size := max natural (min least rest.length)
        let front ← insertAll less front ((rest.drop natural).take (size - natural))
        let (runs, wins) ← prepare less length size runs wins
        let start := length - rest.length
        sortRuns length least fuel (rest.drop size) (⟨start, front, 0⟩ :: runs) wins

/-- The list sorted so that no element is less than one before it; elements of which
neither is less keep their order. -/
def sort (xs : List α) : Except ε (List α) :=
  if xs.length < 2 then return xs
  else sortRuns less xs.length (minRun xs.length false) xs.length xs [] gallopThreshold

/-- The list sorted the other way round; elements of which neither is less still keep
their order. -/
def sortDescending (xs : List α) : Except ε (List α) := do
  return (← sort less xs.reverse).reverse

end JsonQuery.Sorting
