import JsonQuery.Console.Output
import JsonQuery.Session.Workspace
import JsonQuery.Storage.Directory
import JsonQuery.Table.Printer

/-!
What can be asked for at the console: statements in the query language, and shortcuts that
begin with a point. Both answer what is to be shown; a file to be saved is shown by the
outcome of saving it.
-/

namespace JsonQuery

/-- The width from which on a cell is cut. -/
def consoleCellWidth : Int := 40

/-- The wording of the shortcut that exports. -/
def exportUsage : String := ".export csv|json|xlsx [PATH]"

/-- A file to be saved. -/
structure Save where
  target : String
  payload : Payload

/-- What is told about a file after it was saved, or could not be. -/
def Save.report (s : Save) (problem? : Option FileProblem) : String :=
  match problem? with
  | none => "Wrote " ++ s.payload.sizeText ++ " bytes to " ++ s.target
  | some problem => "error: cannot write " ++ s.target ++ ": " ++ problem.message

/-- What is to be shown. -/
inductive Shown where
  | lines (texts : List String)
  | result (rows : List Record) (warnings : List Warning)
  | rejection (message : String)
  | saving (save : Save)

namespace Shown

/-- Whether nothing was rejected. -/
def isSuccess : Shown → Bool
  | .rejection _ => false
  | _ => true

/-- The lines that show a message, or a result that took the given milliseconds. -/
def print (elapsed : Binary64) : Shown → Except Fault (List String)
  | .lines texts => .ok texts
  | .result rows warnings =>
      printRows consoleCellWidth elapsed rows (warnings.map Warning.message)
  | .rejection message => .ok ["error: " ++ message]
  | .saving _ => .ok []

end Shown

/-- A statement without blanks around it and without one semicolon at its end. -/
def bareStatement (text : String) : String :=
  let trimmed := Text.strip text
  match trimmed.toList.reverse with
  | ';' :: rest => Text.stripRight (String.ofList rest.reverse)
  | _ => trimmed

/-- What comes of a statement. One without text does nothing. -/
def Workspace.runStatement (w : Workspace) (text : String) : WorkspaceStep Shown :=
  let statement := bareStatement text
  if statement.isEmpty then ⟨w, .ok (.lines []), []⟩
  else
    let step := w.query statement
    let shown : QueryAnswer → Shown
      | .rows rows => .result rows step.workspace.session.warnings
      | .rejected message => .rejection message
    ⟨step.workspace, step.outcome.map shown, step.journal⟩

/-- The words of a line. -/
def wordsOf (line : String) : List String :=
  ((line.toList.splitBy fun a b => Text.isBlank a == Text.isBlank b).filter
    fun part => !part.all Text.isBlank).map String.ofList

/-- What comes of the shortcut that exports. -/
def Workspace.runExport (w : Workspace) (today : String) (words : List String) :
    WorkspaceStep Shown :=
  match words with
  | [] => ⟨w, .ok (.lines ["usage: " ++ exportUsage]), []⟩
  | name :: more =>
      match ExportFormat.ofName name with
      | .error fault => ⟨w, .ok (.lines ["error: " ++ fault.message]), []⟩
      | .ok format =>
          let step := w.exportDisplayed format today
          ⟨step.workspace, step.outcome.map fun made =>
            .saving ⟨plainPath (more.headD made.filename), made.payload⟩, step.journal⟩

/-- What comes of a shortcut. -/
def Workspace.runShortcut (w : Workspace) (today line : String) : WorkspaceStep Shown :=
  match wordsOf line with
  | [] => ⟨w, .ok (.lines []), []⟩
  | first :: words =>
      match Text.lower first with
      | ".schema" =>
          let lines : Except Fault (List String) := match w.session.schema? with
            | none => .ok (schemaLines none "")
            | some columns => do
                return schemaLines (some columns) (← w.settings.query.tableName.display)
          ⟨w, lines.map .lines, []⟩
      | ".samples" => ⟨w, .ok (.lines (sampleLines w.session.samples)), []⟩
      | ".reset" =>
          let step := w.reset
          let shown : Value → Shown
            | .array items => told items.length
            | _ => told 1
          ⟨step.workspace, step.outcome.map shown, step.journal⟩
      | ".export" => w.runExport today words
      | _ => ⟨w, .ok (.lines ["Unknown shortcut: " ++ Text.strip line,
          "Available shortcuts: .schema, .samples, .reset, " ++ exportUsage]), []⟩
where
  /-- What is told after the query was cleared. -/
  told (count : Nat) : Shown :=
    .lines ["Query cleared; showing " ++ toString count ++ " original records."]

end JsonQuery
