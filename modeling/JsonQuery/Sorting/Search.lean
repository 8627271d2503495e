/-!
Searching a list for the first element at which a test stops. Both searches look at
few elements only: if the elements before the boundary all pass and those behind it all
stop, they find the boundary, and otherwise some place that is consistent with the
elements they looked at. The test may fail, and then so does the search.
-/

namespace JsonQuery.Sorting

variable {ε α : Type}

/-- The place at which a segment is cut in halves. Of the two middles of a segment of
even length the later one is meant, or the earlier one when `early` is set. -/
def middle (early : Bool) (length : Nat) : Nat :=
  if early then (length - 1) / 2 else length / 2

/-- How many elements of the segment lie before the boundary, found by testing the
middle and going on in one half. -/
def bisect (stop : α → Except ε Bool) (early : Bool) (segment : List α) : Except ε Nat :=
  match h : segment.drop (middle early segment.length) with
  | [] => return 0
  | x :: behind => do
      if ← stop x then bisect stop early (segment.take (middle early segment.length))
      else
        let count ← bisect stop early behind
        return middle early segment.length + 1 + count
termination_by segment.length
decreasing_by
  all_goals
    have hlength := congrArg List.length h
    simp only [List.length_drop, List.length_cons, List.length_take] at hlength ⊢
    omega

/-- How many elements lie before the boundary, `last + 1` elements having been left
behind of which the last one passed. The next test is as far ahead as everything so far
is long. -/
def gallopFrom (stop : α → Except ε Bool) (early : Bool) (last : Nat) (ahead : List α) :
    Except ε Nat :=
  match h : ahead.drop last with
  | [] => return last + 1 + (← bisect stop early ahead)
  | x :: behind => do
      if ← stop x then return last + 1 + (← bisect stop early (ahead.take last))
      else gallopFrom stop early (2 * last + 1) behind
termination_by ahead.length
decreasing_by
  have hlength := congrArg List.length h
  simp only [List.length_drop, List.length_cons] at hlength
  omega

/-- How many elements lie before the boundary, found from the front by growing steps and
then by halving. -/
def gallop (stop : α → Except ε Bool) (early : Bool) : List α → Except ε Nat
  | [] => return 0
  | x :: ahead => do
      if ← stop x then return 0 else gallopFrom stop early 0 ahead

end JsonQuery.Sorting
