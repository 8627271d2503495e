import JsonQuery.Value.Basic

/-!
The columns of a dataset, as its first row shows them. Keys that only later rows have
can be queried but are not listed.
-/

namespace JsonQuery

/-- The kind of values in a column. -/
inductive ColumnType where
  | string
  | number
  | boolean
  | array
  | object
  deriving DecidableEq, Repr

/-- The name of a column type. -/
def ColumnType.name : ColumnType → String
  | .string => "string"
  | .number => "number"
  | .boolean => "boolean"
  | .array => "array"
  | .object => "object"

/-- The column type of a value; null says nothing and counts as text. -/
def Value.columnType : Value → ColumnType
  | .null => .string
  | .string _ => .string
  | .bool _ => .boolean
  | .number _ => .number
  | .array _ => .array
  | .object _ => .object

/-- A column with its type and whether its sample is null. -/
structure Column where
  name : String
  type : ColumnType
  nullable : Bool
  deriving DecidableEq, Repr

/-- The column as shown in a description. -/
def Column.describe (c : Column) : String :=
  "ColumnInfo(" ++ c.name ++ ", " ++ c.type.name ++ (if c.nullable then " NULL" else "") ++ ")"

/-- The columns of a dataset in order. -/
abbrev Schema := List Column

namespace Schema

/-- The schema that the first of some rows shows. -/
def ofRows? : List Record → Option Schema
  | [] => none
  | sample :: _ => some (sample.map fun m => ⟨m.1, m.2.columnType, m.2.isNull⟩)

/-- The column with the given name. -/
def column? (schema : Schema) (name : String) : Option Column :=
  schema.find? fun c => c.name == name

/-- The schema as shown in a description. -/
def describe (schema : Schema) : String := s!"SchemaSnapshot(cols={schema.length})"

end Schema

end JsonQuery
