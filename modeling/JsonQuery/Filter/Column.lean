import JsonQuery.Filter.Basic

/-!
The columns offered for filtering: the members of the first record, each with a readable
label and the operators that make sense for its kind of value.
-/

namespace JsonQuery

/-- The kind of a value as filters name it. -/
def Value.filterType : Value → String
  | .null => "null"
  | .bool _ => "boolean"
  | .number _ => "number"
  | .string _ => "string"
  | .array _ => "array"
  | .object _ => "object"

/-- The operators offered for a value. -/
def Value.filterOperators : Value → List FilterOperator
  | .string _ => [.equals, .contains]
  | .number _ => [.equals, .greater, .less, .greaterEqual, .lessEqual]
  | _ => [.equals]

/-- A key as a label: its first character in upper case, and a space before every other
capital letter of ASCII. -/
def columnLabel (key : String) : String :=
  match key.toList with
  | [] => ""
  | first :: rest =>
      String.ofList (Text.upperChar first ++ rest.flatMap fun c =>
        if 65 ≤ c.toNat && c.toNat ≤ 90 then [' ', c] else [c])

/-- A column offered for filtering. -/
structure FilterColumn where
  key : String
  label : String
  type : String
  operators : List FilterOperator

/-- The columns of the first record. -/
def filterColumns (data : Value) : List FilterColumn :=
  match data with
  | .array (.object members :: _) => members.map fun m =>
      ⟨m.1, columnLabel m.1, m.2.filterType, m.2.filterOperators⟩
  | _ => []

end JsonQuery
