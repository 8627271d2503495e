import JsonQuery.Config.Settings
import JsonQuery.Export.Rows
import JsonQuery.Table.Csv
import JsonQuery.Table.Sheet
import JsonQuery.Text.Case
import JsonQuery.Value.Display

/-!
Exports: data written in one of three formats, with a file name that holds the date.
Comma-separated text and sheets show the same table; JSON shows the data itself.
-/

namespace JsonQuery

/-- A format of exports. -/
inductive ExportFormat where
  | csv
  | json
  | xlsx
  deriving DecidableEq, Repr

namespace ExportFormat

/-- The name of a format, which is also the ending of file names. -/
def name : ExportFormat → String
  | .csv => "csv"
  | .json => "json"
  | .xlsx => "xlsx"

/-- The format with the given name, in any case of letters. -/
def ofName (s : String) : Except Fault ExportFormat :=
  match [csv, json, xlsx].find? fun f => f.name == Text.lower s with
  | some format => .ok format
  | none => .error (.unknownFormat s)

end ExportFormat

/-- What is written to the file of an export: a text, or the rows of a sheet. -/
inductive Payload where
  | text (content : String)
  | sheet (rows : List (List Value))

/-- The size of a payload. That of a workbook is not told. -/
def Payload.sizeText : Payload → String
  | .text content => toString content.utf8ByteSize
  | .sheet _ => "#"

/-- The style of exported JSON: the setting is the number of spaces, or the text, that a
level is indented by, and null keeps everything on one line. -/
def jsonStyle (indent : Value) : Except Fault Json.Style :=
  let spaces (n : Nat) : Json.Style := .spread (String.ofList (List.replicate n ' '))
  match indent with
  | .null => .ok .spaced
  | .bool b => .ok (spaces (if b then 1 else 0))
  | .number (.int n) => .ok (spaces n.toNat)
  | .string unit => .ok (.spread unit)
  | v => .error (.wrongKind ("can't multiply sequence by non-int of type '" ++ v.kindWord ++ "'"))

/-- An export: the name of its file and what is written there. -/
structure Export where
  filename : String
  payload : Payload

/-- The style in which some data are exported. A text alone has no levels, so how levels are
indented does not matter to it. -/
def jsonStyleFor (settings : ExportSettings) : Value → Except Fault Json.Style
  | .string _ => .ok .spaced
  | _ => jsonStyle settings.jsonIndent

/-- The payload of some data. -/
def payloadOf (format : ExportFormat) (settings : ExportSettings) (data : Value) :
    Except Fault Payload := do
  match format with
  | .csv => return .text (← Table.ofRows (← exportRows data)).toCsv
  | .json => do
      let text ← data.toJson (← jsonStyleFor settings data)
      requireWritable [text]
      return .text text
  | .xlsx => return .sheet (← (← Table.ofRows (← exportRows data)).toSheet)

/-- The export of some data on the given day. -/
def exportData (format : ExportFormat) (settings : ExportSettings) (today : String)
    (data : Value) : Except Fault Export := do
  let payload ← payloadOf format settings data
  let start ← settings.filenamePrefix.display
  return ⟨start ++ "-" ++ today ++ "." ++ format.name, payload⟩

end JsonQuery
