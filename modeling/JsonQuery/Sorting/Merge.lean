import JsonQuery.Sorting.Search

/-!
Merging two sorted lists. Elements are taken one by one while the lists alternate, and
by galloping searches as soon as one list wins often enough in a row; how often is
learned during the sort. A merge goes forward, from the fronts, or backward, from the
ends. Every step moves elements from the front of a list to the result, so a merge
loses and invents nothing, whatever the comparison answers.
-/

namespace JsonQuery.Sorting

variable {ε α : Type}

/-- The number of wins in a row that makes galloping worth while. -/
def gallopThreshold : Nat := 7

/-- A merge under way: the result so far in reverse, what is left of the list that keeps
its place on ties in the first position `held`, and what is left of the other list. -/
structure MergeState (α : Type) where
  done : List α
  held : List α
  moved : List α

/-- The whole result once the remaining elements need no comparison. -/
def MergeState.finish (s : MergeState α) : List α := s.done.reverse ++ s.moved ++ s.held

/-- The state with the first `count` elements of the held list moved to the result. -/
def MergeState.passHeld (s : MergeState α) (count : Nat) : MergeState α :=
  ⟨(s.held.take count).reverse ++ s.done, s.held.drop count, s.moved⟩

/-- The state with the first `count` elements of the other list moved to the result. -/
def MergeState.passMoved (s : MergeState α) (count : Nat) : MergeState α :=
  ⟨(s.moved.take count).reverse ++ s.done, s.held, s.moved.drop count⟩

/-- Whether no comparison is left to make: a list is used up, or the held one has a single
element, which is known to come last. -/
def MergeState.isSettled (s : MergeState α) : Bool := s.held.length ≤ 1 || s.moved.isEmpty

/-- How often each list has won in a row, or that the lists are being searched. -/
inductive MergeMode where
  | alternating (heldWins movedWins : Nat)
  | galloping

variable (movesFirst : α → α → Except ε Bool) (backward : Bool)

/-- Moves the elements of the held list that come before the head of the other list, and
then that head. Answers how many elements the search found. -/
def gallopHeld (s : MergeState α) : Except ε (Nat × MergeState α) := do
  match s.moved with
  | [] => return (0, s)
  | y :: _ =>
      let count ← gallop (fun x => movesFirst x y) backward s.held
      let s := s.passHeld count
      if s.isSettled then return (count, s) else return (count, s.passMoved 1)

/-- Moves the elements of the other list that come before the head of the held list, and
then that head. Answers how many elements the search found. -/
def gallopMoved (s : MergeState α) : Except ε (Nat × MergeState α) := do
  match s.held with
  | [] => return (0, s)
  | x :: _ =>
      let count ← gallop (fun y => do return !(← movesFirst x y)) backward s.moved
      let s := s.passMoved count
      if s.isSettled then return (count, s) else return (count, s.passHeld 1)

/-- One round of searching in both lists, each count with the state behind it. The second
search is left out when the first one settles the merge. -/
def gallopRound (s : MergeState α) : Except ε (Nat × Nat × MergeState α) := do
  if backward then
    let (movedCount, s) ← gallopMoved movesFirst backward s
    if s.isSettled then return (0, movedCount, s)
    else
      let (heldCount, s) ← gallopHeld movesFirst backward s
      return (heldCount, movedCount, s)
  else
    let (heldCount, s) ← gallopHeld movesFirst backward s
    if s.isSettled then return (heldCount, 0, s)
    else
      let (movedCount, s) ← gallopMoved movesFirst backward s
      return (heldCount, movedCount, s)

/-- Merges what is left. `wins` is the number of wins in a row after which the lists are
searched; it falls while searching pays and rises when it stops paying. The first
argument bounds the number of steps and never runs out, because every step moves an
element. -/
def mergeLoop : Nat → MergeMode → Nat → MergeState α → Except ε (List α × Nat)
  | 0, _, wins, s => return (s.finish, wins)
  | fuel + 1, mode, wins, s => do
      if s.isSettled then return (s.finish, wins)
      else match mode, s.held, s.moved with
        | .alternating heldWins movedWins, x :: _, y :: _ =>
            if ← movesFirst x y then
              let mode := if wins ≤ movedWins + 1 then .galloping
                else .alternating 0 (movedWins + 1)
              mergeLoop fuel mode wins (s.passMoved 1)
            else
              let mode := if wins ≤ heldWins + 1 then .galloping
                else .alternating (heldWins + 1) 0
              mergeLoop fuel mode wins (s.passHeld 1)
        | .galloping, _, _ =>
            let (heldCount, movedCount, s) ← gallopRound movesFirst backward s
            if s.isSettled then return (s.finish, wins)
            else if gallopThreshold ≤ heldCount || gallopThreshold ≤ movedCount then
              mergeLoop fuel .galloping (if 1 < wins then wins - 1 else wins) s
            else mergeLoop fuel (.alternating 0 0) (wins + 1) s
        | _, _, _ => return (s.finish, wins)

/-- Merges two lists of which the head of `moved` is known to come first. Answers the
result and the new number of wins. -/
def mergeFrom (wins : Nat) (held moved : List α) : Except ε (List α × Nat) :=
  mergeLoop movesFirst backward (held.length + moved.length) (.alternating 0 0) wins
    (MergeState.passMoved ⟨[], held, moved⟩ 1)

end JsonQuery.Sorting
