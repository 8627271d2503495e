import JsonQuery.Table.Basic

/-!
Tables as comma-separated text. Names and texts stand between double quotes, with inner
quotes doubled; numbers and truth values stand as they are, and nothing stands for null.
-/

namespace JsonQuery

/-- A text between double quotes. -/
def csvQuote (s : String) : List Char :=
  '"' :: (s.toList.flatMap fun c => if c == '"' then ['"', '"'] else [c]) ++ ['"']

/-- A cell of a comma-separated table. -/
def csvCell : Value → List Char
  | .null => []
  | .bool b => (if b then "true" else "false").toList
  | .number (.int n) => (toString n).toList
  | .number (.float x) => x.separatedText.toList
  | .string s => csvQuote s
  | _ => []

/-- A line of cells with the break that ends it. -/
def csvLine (cells : List (List Char)) : List Char := [','].intercalate cells ++ ['\n']

/-- A table as comma-separated text, headed by the names of its columns. A table without
columns is no text at all. -/
def Table.toCsv (t : Table) : String :=
  if t.isEmpty then ""
  else String.ofList (csvLine (t.map fun column => csvQuote column.name) ++
    t.rows.flatMap fun row => csvLine (row.map csvCell))

end JsonQuery
