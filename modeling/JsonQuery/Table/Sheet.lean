import JsonQuery.Number.Reading
import JsonQuery.Table.Basic

/-!
Tables as the sheet of a workbook, given by the cells that a reader of the workbook finds.
A number keeps sixteen significant digits, texts are cut to the length a cell can hold,
and an empty cell is null. Control characters cannot be stored.
-/

namespace JsonQuery

/-- The title of the only sheet. -/
def sheetTitle : String := "Data"

/-- The most characters a cell can hold. -/
def sheetTextLimit : Nat := 32767

/-- Whether a character cannot stand in a sheet. -/
def isIllegalInSheet (c : Char) : Bool :=
  c.toNat < 32 && c != '\t' && c != '\n' && c != '\r'

/-- The characters with every line break written as a line feed. -/
def normalizeBreaks : List Char → List Char
  | [] => []
  | '\r' :: '\n' :: rest => '\n' :: normalizeBreaks rest
  | c :: rest => (if c == '\r' then '\n' else c) :: normalizeBreaks rest

/-- The number found in a cell that a number was written to. -/
def sheetNumber (x : Binary64) : Value :=
  match x with
  | .finite negative units =>
      let d := Decimal.rounded 16 units
      let isWhole := units == 0 || ((d.digits.length : Int) ≤ d.leading + 1 && d.leading < 16)
      if isWhole then
        let digits := if units == 0 then 0
          else natOfDigits d.digits * powerOfTen (d.leading + 1 - d.digits.length).toNat
        Value.ofInt (if negative then -(digits : Int) else digits)
      else Value.ofFloat (Binary64.ofDecimal negative (natOfDigits d.digits)
        (d.leading + 1 - d.digits.length))
  | _ => .null

/-- The text found in a cell that a text was written to. -/
def sheetText (s : String) : Except Fault Value :=
  let cut := s.toList.take sheetTextLimit
  if cut.any isIllegalInSheet then .error (.illegalCharacter (String.ofList cut))
  else if cut.isEmpty then .ok .null
  else .ok (.string (String.ofList (normalizeBreaks cut)))

/-- The value found in a cell that a value was written to. -/
def sheetCell : Value → Except Fault Value
  | .number (.int n) => return ((Binary64.ofInt? n).map sheetNumber).getD .null
  | .number (.float x) => return sheetNumber x
  | .string s => sheetText s
  | v => return v

/-- The rows found in the sheet of a table, headed by the names of its columns. Rows of
nothing but null cells at the end are not there. -/
def Table.toSheet (t : Table) : Except Fault (List (List Value)) := do
  if t.isEmpty then return []
  else
    let header ← t.mapM fun column => sheetText column.name
    let rows := (t.rows.reverse.dropWhile fun row => row.all Value.isNull).reverse
    return header :: (← rows.mapM fun row => row.mapM sheetCell)

end JsonQuery
