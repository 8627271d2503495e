import JsonQuery.Text.Case
import JsonQuery.Value.Text

/-!
The order in which values are sorted. Numbers are compared by value, truth values false
first, and texts without regard to case, the exact text deciding between texts that
differ in case only. Values of different kinds are compared by their texts.
-/

namespace JsonQuery

/-- Order of texts without regard to case, the exact text deciding ties. -/
def compareCollated (a b : String) : Ordering :=
  (Text.compareText (Text.fold a) (Text.fold b)).then (Text.compareText a b)

namespace Value

/-- Order of two values that are not null. A number that is none compares equal to every
number. -/
def compare (a b : Value) : Except Fault Ordering :=
  match a, b with
  | .number m, .number n => return (m.compare? n).getD .eq
  | .bool p, .bool q => return Ord.compare p q
  | .string s, .string t => return compareCollated s t
  | a, b => return compareCollated (← a.text) (← b.text)

/-- Whether one value comes before another. -/
def before (a b : Value) : Except Fault Bool := do
  return (← a.compare b) == .lt

end Value

end JsonQuery
