import JsonQuery.Text.Literal
import JsonQuery.Value.Text

/-!
Values as they are put into messages: a text as it is, and everything else by its
description, in which texts are quoted literals.
-/

namespace JsonQuery

namespace Value

mutual

/-- The description of a value whose integers can be written. -/
def describe : Value → String
  | .null => "None"
  | .bool b => if b then "True" else "False"
  | .number (.int n) => toString n
  | .number (.float x) => x.dataText
  | .string s => Text.literal s
  | .array items => "[" ++ ", ".intercalate (describeItems items) ++ "]"
  | .object members => "\x7b" ++ ", ".intercalate (describeMembers members) ++ "\x7d"

/-- The descriptions of items. -/
def describeItems : List Value → List String
  | [] => []
  | item :: items => describe item :: describeItems items

/-- The descriptions of members. -/
def describeMembers : List (String × Value) → List String
  | [] => []
  | (key, item) :: members => (Text.literal key ++ ": " ++ describe item) :: describeMembers members

end

/-- A value whose integers can be written, inside a message. -/
def plainDisplay : Value → String
  | .string s => s
  | v => v.describe

/-- A value inside a message. -/
def display (v : Value) : Except Fault String :=
  if v.integersFit then .ok v.plainDisplay else .error .integerTooLongToWrite

end Value

end JsonQuery
