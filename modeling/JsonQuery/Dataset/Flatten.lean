import JsonQuery.Value.Text

/-!
Flattening a record into a row of scalars. A nested object is written into the row under
the joined keys of its path, and an array as the texts of its items. When two paths join
to the same key the later one wins and the key keeps its place.
-/

namespace JsonQuery

/-- The key of a member below a path. An empty path leaves no mark. -/
def joinPath (path key : String) : String := if path.isEmpty then key else path ++ "_" ++ key

mutual

/-- The record with a value written into it under a path. -/
def Value.flattenInto (row : Record) (path : String) : Value → Except Fault Record
  | .object members => do
      return row.putAll (← flattenMembers [] path members)
  | .array items => do
      return row.put path (.string (← Value.itemsText items))
  | scalar => return row.put path scalar

/-- The record with members written into it below a path. -/
def flattenMembers (row : Record) (path : String) :
    List (String × Value) → Except Fault Record
  | [] => return row
  | (key, item) :: members => do
      flattenMembers (← item.flattenInto row (joinPath path key)) path members

end

/-- The flat row of a record, its keys put below a path. -/
def Record.flatten (r : Record) (path : String) : Except Fault Record :=
  flattenMembers [] path r

/-- The flat row of a value, which must be an object. -/
def Value.flatten (v : Value) (path : String) : Except Fault Record :=
  match v with
  | .object members => Record.flatten members path
  | v => .error (.notAnObject v.kindWord)

end JsonQuery
