import JsonQuery.Table.Infer
import JsonQuery.Value.Text

/-!
Tables: rows turned into typed columns. The columns are the keys of the rows in the order
of their first appearance, and a cell is null where a row lacks the key. A column whose
values have no common type, and one of nested values, holds their texts.
-/

namespace JsonQuery

/-- The type of a column. -/
inductive CellType where
  | bool
  | int64
  | double
  | string
  deriving DecidableEq, Repr

namespace CellType

/-- The name of a column's type. -/
def name : CellType → String
  | .bool => "bool"
  | .int64 => "int64"
  | .double => "double"
  | .string => "string"

/-- Whether the type is one of numbers. -/
def isNumeric : CellType → Bool
  | .int64 => true
  | .double => true
  | _ => false

end CellType

/-- A column of a table. -/
structure TableColumn where
  name : String
  type : CellType
  cells : List Value

/-- A table: columns with one cell for each row. -/
abbrev Table := List TableColumn

/-- A value as a cell of fractions. -/
def Value.toDoubleCell : Value → Value
  | .number (.int n) => Value.ofFloat ((Binary64.ofInt? n).getD .nan)
  | .bool b => Value.ofFloat ((Binary64.ofInt? (if b then 1 else 0)).getD .nan)
  | v => v

/-- A value as a cell of text. -/
def Value.toTextCell (v : Value) : Except Fault Value :=
  if v.isNull then return .null else return .string (← v.text)

/-- A fault if one of some texts cannot be written. -/
def requireWritable (texts : List String) : Except Fault Unit :=
  match texts.findSome? Text.Charset.utf8.unwritable? with
  | none => .ok ()
  | some place => .error (.unwritable place)

namespace TableColumn

/-- The column of some values as texts. -/
def ofTexts (name : String) (values : List Value) : Except Fault TableColumn := do
  let cells ← values.mapM Value.toTextCell
  requireWritable (cells.filterMap fun cell => match cell with
    | .string s => some s
    | _ => none)
  return ⟨name, .string, cells⟩

/-- The column of values that fit a storage type. -/
def ofFitting (name : String) (values : List Value) : StorageType → Except Fault TableColumn
  | .bool => return ⟨name, .bool, values⟩
  | .int64 => return ⟨name, .int64, values⟩
  | .double => return ⟨name, .double, values.map Value.toDoubleCell⟩
  | .string => return ⟨name, .string, values⟩
  | .null => return ⟨name, .string, values⟩
  | .list _ => ofTexts name values
  | .struct _ => ofTexts name values

/-- The column of some values. An integer beyond 64 bits that is reached while integers
are stored is a fault, and so is a text that cannot be written; anything else that does not
fit makes the column one of texts. -/
def ofValues (name : String) (values : List Value) : Except Fault TableColumn :=
  match StorageType.ofColumn? values with
  | none => ofTexts name values
  | some type =>
      match Fit.first (values.map type.fit) with
      | .fits => ofFitting name values type
      | .misfit => ofTexts name values
      | .overflow => .error .integerExceedsColumn
      | .unwritable place => .error (.unwritable place)

end TableColumn

namespace Table

/-- The table of some rows. -/
def ofRows (rows : List Record) : Except Fault Table := do
  let names := columnNames rows
  let columns ← names.mapM fun name => TableColumn.ofValues name (rows.map fun r => r.get name)
  requireWritable names
  return columns

/-- The number of rows of a table; one without columns has none. -/
def height (t : Table) : Nat :=
  match t with
  | [] => 0
  | column :: _ => column.cells.length

/-- The cells of a table, row by row. -/
def rows (t : Table) : List (List Value) :=
  (List.range (height t)).map fun i => t.map fun column => column.cells.getD i .null

end Table

end JsonQuery
