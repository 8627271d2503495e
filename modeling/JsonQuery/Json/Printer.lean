import JsonQuery.Number.Decimal
import JsonQuery.Text.Basic
import JsonQuery.Value.Basic

/-!
Writing JSON text. A style says what stands between items, whether nested values
are spread over lines, and whether more than the
required characters are escaped; the values
themselves are written the same way in every style.
-/

namespace JsonQuery.Json

/-- How the parts of a JSON text are set. -/
structure Style where
  /-- Between two items; a line break follows it when lines are spread. -/
  itemSeparator : String
  /-- Between a key and its value. -/
  keySeparator : String
  /-- What one level of nesting is indented by; without it all stands on one line. -/
  indent : Option String
  /-- Whether every character but the visible ones of ASCII is written by its code units. -/
  asciiOnly : Bool

namespace Style

/-- No space anywhere. -/
def compact : Style := ⟨",", ":", none, false⟩

/-- One line with a space behind each separator. -/
def spaced : Style := ⟨", ", ": ", none, false⟩

/-- One line of ASCII with a space behind each separator. -/
def asciiLine : Style := ⟨", ", ": ", none, true⟩

/-- One line for each item, nested by the given text. -/
def spread (indent : String) : Style := ⟨",", ": ", some indent, false⟩

end Style

/-- An escape of one code unit. -/
def unitEscape (n : Nat) : List Char := '\\' :: 'u' :: Text.hexadecimal 4 n

/-- A character inside a string. -/
def escape (asciiOnly : Bool) (c : Char) : List Char :=
  if c == '"' || c == '\\' then ['\\', c]
  else if c == '\n' then ['\\', 'n']
  else if c == '\r' then ['\\', 'r']
  else if c == '\t' then ['\\', 't']
  else if c == '\x08' then ['\\', 'b']
  else if c == '\x0c' then ['\\', 'f']
  else if c.toNat < 0x20 then unitEscape c.toNat
  else if !asciiOnly || c.toNat < 0x7F then [c]
  else if Text.codeOf c < 0x10000 then unitEscape (Text.codeOf c)
  else
    let code := c.toNat - 0x10000
    unitEscape (0xD800 + code / 0x400) ++ unitEscape (0xDC00 + code % 0x400)

/-- A string between its quotes. -/
def quote (asciiOnly : Bool) (s : String) : List Char :=
  '"' :: s.toList.flatMap (escape asciiOnly) ++ ['"']

/-- A double-precision number; the ones that are not finite have names of their own. -/
def floatText : Binary64 → String
  | .nan | .spelledNan => "NaN"
  | .infinite negative => if negative then "-Infinity" else "Infinity"
  | x => x.dataText

/-- A number. -/
def numberText : Number → String
  | .int n => toString n
  | .float x => floatText x

/-- What separates two items, or opens and closes a spread list, at a nesting depth. -/
def lineBreak (style : Style) (depth : Nat) : List Char :=
  match style.indent with
  | none => []
  | some unit => '\n' :: (List.replicate depth unit.toList).flatten

mutual

/-- A value at a nesting depth. -/
def write (style : Style) (depth : Nat) : Value → List Char
  | .null => ['n', 'u', 'l', 'l']
  | .bool true => ['t', 'r', 'u', 'e']
  | .bool false => ['f', 'a', 'l', 's', 'e']
  | .number n => (numberText n).toList
  | .string s => quote style.asciiOnly s
  | .array [] => ['[', ']']
  | .array (item :: items) =>
      '[' :: lineBreak style (depth + 1) ++ write style (depth + 1) item ++
        writeItems style (depth + 1) items ++ lineBreak style depth ++ [']']
  | .object [] => ['\x7b', '\x7d']
  | .object ((key, item) :: members) =>
      '\x7b' :: lineBreak style (depth + 1) ++ quote style.asciiOnly key ++
        style.keySeparator.toList ++ write style (depth + 1) item ++
        writeMembers style (depth + 1) members ++ lineBreak style depth ++ ['\x7d']

/-- The items of an array behind its first one. -/
def writeItems (style : Style) (depth : Nat) : List Value → List Char
  | [] => []
  | item :: items =>
      style.itemSeparator.toList ++ lineBreak style depth ++ write style depth item ++
        writeItems style depth items

/-- The members of an object behind its first one. -/
def writeMembers (style : Style) (depth : Nat) : List (String × Value) → List Char
  | [] => []
  | (key, item) :: members =>
      style.itemSeparator.toList ++ lineBreak style depth ++ quote style.asciiOnly key ++
        style.keySeparator.toList ++ write style depth item ++ writeMembers style depth members

end

/-- The text of a value. -/
def print (style : Style) (v : Value) : String := String.ofList (write style 0 v)

end JsonQuery.Json
