import JsonQuery.Value.Text

/-!
Rows for export. Every element of an array becomes one row, and anything else is a single
row. Nested objects are written out under dotted keys, the elements of an array that is
itself a row are numbered, and arrays further inside become JSON text.
-/

namespace JsonQuery

/-- The key of a member below a dotted path. -/
def joinDotted (path key : String) : String := if path.isEmpty then key else path ++ "." ++ key

mutual

/-- The row with a value written into it under a dotted path. -/
def Value.exportInto (row : Record) (path : String) : Value → Except Fault Record
  | .object members => do
      return row.putAll (← exportMembers [] path members)
  | .array [] => return row.put path (.string "")
  | .array (item :: items) => do
      return row.put path (.string (← (Value.array (item :: items)).text))
  | scalar => return row.put path scalar

/-- The row with members written into it below a dotted path. -/
def exportMembers (row : Record) (path : String) :
    List (String × Value) → Except Fault Record
  | [] => return row
  | (key, item) :: members => do
      exportMembers (← item.exportInto row (joinDotted path key)) path members

end

/-- The items of an array under their positions, counted from zero. -/
def numberedMembers (items : List Value) : List (String × Value) :=
  items.zipIdx.map fun p => (toString p.2, p.1)

/-- The row of one element. A scalar stands under a key of its own. -/
def exportRow (v : Value) : Except Fault Record :=
  match v with
  | .object members => exportMembers [] "" members
  | .array items => exportMembers [] "" (numberedMembers items)
  | scalar => return [("value", scalar)]

/-- The rows of a value. -/
def exportRows (data : Value) : Except Fault (List Record) :=
  match data with
  | .array items => items.mapM exportRow
  | other => do return [← exportRow other]

end JsonQuery
