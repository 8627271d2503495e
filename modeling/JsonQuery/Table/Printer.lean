import JsonQuery.Table.Basic

/-!
Tables printed as lines of text with a frame. Every cell is one line, cut to a greatest
width; numbers stand on the right of their column and everything else on the left.
-/

namespace JsonQuery

/-- The text of a cell: line breaks become spaces, and a text that is too wide ends in
three points. -/
def cellText (maxWidth : Int) (v : Value) : Except Fault (List Char) := do
  if v.isNull then return "NULL".toList
  else
    let lines := Text.splitLines (← v.text).toList
    let text := [' '].intercalate lines
    if maxWidth < text.length then
      let kept := if 3 ≤ maxWidth then maxWidth - 3 else text.length + (maxWidth - 3)
      return text.take kept.toNat ++ ['.', '.', '.']
    else return text

/-- A column ready to be printed: its name, its texts and the side they stand on. -/
structure PrintedColumn where
  name : List Char
  texts : List (List Char)
  onRight : Bool

namespace PrintedColumn

/-- The width of the widest text of a column, its name included. -/
def width (c : PrintedColumn) : Nat :=
  c.texts.foldl (fun w text => max w text.length) c.name.length

/-- A text filled up to the width of its column. -/
def pad (c : PrintedColumn) (text : List Char) : List Char :=
  if c.onRight then Text.padLeft c.width ' ' text else Text.padRight c.width text

end PrintedColumn

/-- The columns of a table ready to be printed. -/
def Table.printed (maxWidth : Int) (t : Table) : Except Fault (List PrintedColumn) :=
  t.mapM fun column => do
    return ⟨column.name.toList, ← column.cells.mapM (cellText maxWidth), column.type.isNumeric⟩

/-- The line between the parts of a table. -/
def ruleLine (columns : List PrintedColumn) : List Char :=
  '+' :: ['+'].intercalate (columns.map fun c => List.replicate (c.width + 2) '-') ++ ['+']

/-- A line of cells. -/
def cellLine (cells : List (List Char)) : List Char :=
  ['|', ' '] ++ [' ', '|', ' '].intercalate cells ++ [' ', '|']

/-- The line that counts the rows. -/
def countLine (count : Nat) (elapsed : Binary64) : String :=
  toString count ++ (if count == 1 then " row in " else " rows in ") ++
    elapsed.fixedText 2 ++ " ms"

/-- The lines of a table, with `count` rows in the last one. -/
def Table.lines (maxWidth : Int) (elapsed : Binary64) (count : Nat) (t : Table) :
    Except Fault (List String) := do
  let columns ← t.printed maxWidth
  let rule := ruleLine columns
  let header := cellLine (columns.map fun c => Text.padRight c.width c.name)
  let body := (List.range t.height).map fun i =>
    cellLine (columns.map fun c => c.pad (c.texts.getD i []))
  return ([rule, header, rule] ++ body ++ [rule]).map String.ofList ++ [countLine count elapsed]

/-- The lines of some rows, with the warnings about them. -/
def printRows (maxWidth : Int) (elapsed : Binary64) (rows : List Record)
    (warnings : List String) : Except Fault (List String) := do
  let lines ← (← Table.ofRows rows).lines maxWidth elapsed rows.length
  return lines ++ warnings.map ("warning: " ++ ·)

end JsonQuery
