import JsonQuery.Dataset.Flatten
import JsonQuery.Dataset.Schema

/-!
A dataset: data as it was received, together with the flat rows a query runs over or the
reason why it cannot be queried. Rows and reason are derived from the data when the
dataset is built, so they always describe the same data.
-/

namespace JsonQuery

/-- Data with what queries see of it. -/
structure Dataset where
  raw : Value
  sourceUrl : Option String
  /-- The flat rows, or why there are none. -/
  content : Except Unavailable (List Record)

namespace Dataset

/-- The flat row of an array's element; one that is no object is put under a key. -/
def elementRow (element : Value) : Except Fault Record :=
  match element with
  | .object members => Record.flatten members ""
  | other => Record.flatten [("value", other)] ""

/-- The rows a value offers to queries: those of an array whose first element is an
object. -/
def contentOf (raw : Value) : Except Fault (Except Unavailable (List Record)) :=
  match raw with
  | .array [] => return .error .emptyArray
  | .array (first :: rest) =>
      match first with
      | .object _ => do return .ok (← (first :: rest).mapM elementRow)
      | _ => return .error .notObjects
  | _ => return .error .notArray

/-- The dataset of a value, received from a URL if one is given. -/
def ofValue (raw : Value) (sourceUrl : Option String) : Except Fault Dataset := do
  return ⟨raw, sourceUrl, ← contentOf raw⟩

/-- The flat rows, none if the data cannot be queried. -/
def rows (d : Dataset) : List Record :=
  match d.content with
  | .ok rows => rows
  | .error _ => []

/-- Whether the data can be queried. -/
def isQueryable (d : Dataset) : Bool := d.content.toBool

/-- Why the data cannot be queried. -/
def reason? (d : Dataset) : Option Unavailable :=
  match d.content with
  | .ok _ => none
  | .error reason => some reason

/-- The flat rows; that there are none is a fault. -/
def requireRows (d : Dataset) : Except Fault (List Record) :=
  d.content.mapError Fault.noData

/-- The columns of the rows, if there are rows. -/
def schema? (d : Dataset) : Option Schema := Schema.ofRows? d.rows

/-- The number of elements of the data. -/
def size (d : Dataset) : Nat :=
  match d.raw with
  | .array items => items.length
  | _ => 0

/-- The dataset as shown in a description. -/
def describe (d : Dataset) : String :=
  let queryable := if d.isQueryable then "True" else "False"
  "Dataset(rows=" ++ toString d.rows.length ++ ", queryable=" ++ queryable ++ ")"

end Dataset

end JsonQuery
