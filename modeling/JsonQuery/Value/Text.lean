import JsonQuery.Fault
import JsonQuery.Json.Printer

/-!
The text of a value, as it is shown, searched and compared. Text is shown without
quotes, a whole number without a fraction, and a nested value as compact JSON. An
integer with too many digits has no text, alone or inside a nested value.
-/

namespace JsonQuery

namespace Value

/-- Whether an integer has few enough digits to be written. -/
def integerFits (n : Int) : Bool := n.natAbs < powerOfTen integerDigitLimit

mutual

/-- Whether every integer in a value has few enough digits to be written. -/
def integersFit : Value → Bool
  | .number (.int n) => integerFits n
  | .array items => allIntegersFit items
  | .object members => memberIntegersFit members
  | _ => true

/-- Whether every integer in the items has few enough digits to be written. -/
def allIntegersFit : List Value → Bool
  | [] => true
  | item :: items => item.integersFit && allIntegersFit items

/-- Whether every integer in the members has few enough digits to be written. -/
def memberIntegersFit : List (String × Value) → Bool
  | [] => true
  | (_, item) :: members => item.integersFit && memberIntegersFit members

end

/-- The text of a number. -/
def numberText : Number → String
  | .int n => toString n
  | .float x => match x.toInt? with
    | some n => toString n
    | none => x.dataText

/-- The text of a value whose integers can be written. -/
def plainText : Value → String
  | .null => "null"
  | .bool b => if b then "true" else "false"
  | .number n => numberText n
  | .string s => s
  | v => Json.print .compact v

/-- The text of a value. -/
def text (v : Value) : Except Fault String :=
  if v.integersFit then .ok v.plainText else .error .integerTooLongToWrite

/-- The text of an array as a cell of a flat row: the texts of its items. -/
def itemsText (items : List Value) : Except Fault String := do
  return ", ".intercalate (← items.mapM text)

/-- A value as JSON text in the given style. -/
def toJson (style : Json.Style) (v : Value) : Except Fault String :=
  if v.integersFit then .ok (Json.print style v) else .error .integerTooLongToWrite

end Value

end JsonQuery
