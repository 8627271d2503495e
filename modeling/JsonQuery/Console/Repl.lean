import JsonQuery.Console.Statement

/-!
The conversation at a prompt. What a typed line means depends on the lines typed before it
alone: lines are collected until one ends with a semicolon, and only between statements a
line can be a shortcut or end the conversation. What it does is decided apart from that.
-/

namespace JsonQuery

/-- What a person types at the prompt: a line, or the key that interrupts. -/
inductive Typed where
  | line (text : String)
  | interrupt
  deriving DecidableEq, Repr

/-- What something typed means. -/
inductive Reading where
  /-- The conversation ends. -/
  | exit
  | shortcut (line : String)
  /-- The line means nothing. -/
  | blank
  /-- The line belongs to a statement that goes on. -/
  | unfinished (line : String)
  /-- The line completes a statement. -/
  | statement (text : String)
  /-- The statement being typed is dropped. -/
  | interrupted
  deriving DecidableEq, Repr

/-- Whether a line asks to end the conversation. -/
def isExitLine (line : String) : Bool :=
  ["\\q", "quit", "exit"].contains (Text.lower (Text.strip line))

/-- Whether a line is a shortcut. -/
def isShortcutLine (line : String) : Bool := (Text.strip line).toList.head? == some '.'

/-- Whether a line completes a statement. -/
def completesStatement (line : String) : Bool := (Text.strip line).toList.getLast? == some ';'

namespace Reading

/-- What something typed means behind the lines of a statement that is being typed. -/
def of (pending : List String) : Typed → Reading
  | .interrupt => .interrupted
  | .line line =>
      if pending.isEmpty && isExitLine line then .exit
      else if pending.isEmpty && isShortcutLine line then .shortcut line
      else if (Text.strip line).isEmpty then .blank
      else if completesStatement line then .statement ("\n".intercalate (pending ++ [line]))
      else .unfinished line

/-- The lines of the statement being typed after a reading. -/
def pendingAfter (pending : List String) : Reading → List String
  | .unfinished line => pending ++ [line]
  | .blank => pending
  | _ => []

end Reading

/-- The prompt behind the lines of a statement that is being typed. -/
def promptText (pending : List String) : String := if pending.isEmpty then "query> " else "...> "

/-- What the inputs mean one after the other, each with the prompt it was typed at. Inputs
behind the end of the conversation are not read. -/
def readings : List String → List Typed → List (String × Reading)
  | _, [] => []
  | pending, typed :: rest =>
      let reading := Reading.of pending typed
      (promptText pending, reading) ::
        if reading = .exit then [] else readings (reading.pendingAfter pending) rest

/-- What a reading does to the workspace and what it shows; most do nothing. -/
def Workspace.perform (w : Workspace) (today : String) : Reading → WorkspaceStep Shown
  | .statement text => w.runStatement text
  | .shortcut line => w.runShortcut today line
  | .interrupted => ⟨w, .ok (.lines [""]), []⟩
  | .exit | .blank | .unfinished _ => ⟨w, .ok (.lines []), []⟩

/-- A conversation, as far as it went. -/
structure Conversation where
  prompts : List String
  lines : List String
  workspace : Workspace
  directory : Directory
  journal : Journal
  /-- The fault that broke the conversation off. -/
  fault : Option Fault

/-- What is shown in the end, in the given directory: the lines and the directory after a
file was saved. -/
def Directory.show (d : Directory) (elapsed : Binary64) (shown : Shown) :
    Except Fault (List String × Directory) :=
  match shown with
  | .saving save =>
      match d.write save.target save.payload with
      | .ok written => .ok ([save.report none], written)
      | .error (.file problem) => .ok ([save.report (some problem)], d)
      | .error fault => .error fault
  | other => (other.print elapsed).map fun lines => (lines, d)

namespace Conversation

/-- A conversation of which nothing was said yet. -/
def start (w : Workspace) (d : Directory) : Conversation := ⟨[], [], w, d, [], none⟩

/-- The conversation after something typed was read and performed. -/
def answer (c : Conversation) (today : String) (elapsed : Binary64) (prompt : String)
    (reading : Reading) : Conversation :=
  let step := c.workspace.perform today reading
  let asked := { c with
    prompts := c.prompts ++ [prompt], workspace := step.workspace,
    journal := c.journal ++ step.journal }
  match step.outcome.bind (c.directory.show elapsed) with
  | .ok (lines, directory) =>
      let (written, fault?) := writtenLines lines
      { asked with lines := c.lines ++ written, directory := directory, fault := fault? }
  | .error fault => { asked with fault := some fault }

/-- The conversation after everything typed was answered. It ends with an empty line when
the inputs end, unless it was ended before. -/
def converse (today : String) (elapsed : Binary64) :
    Conversation → List String → List Typed → Conversation
  | c, pending, [] =>
      { c with prompts := c.prompts ++ [promptText pending], lines := c.lines ++ [""] }
  | c, pending, typed :: rest =>
      let reading := Reading.of pending typed
      let answered := c.answer today elapsed (promptText pending) reading
      if reading = .exit || answered.fault.isSome then answered
      else converse today elapsed answered (reading.pendingAfter pending) rest

end Conversation

end JsonQuery
