import JsonQuery.Console.Command
import Std.Time.DateTime

/-!
The program: it looks at the paths among its arguments, hands everything to the command,
and carries the outcome to the terminal and to the disk. A workbook is kept as the rows of
its sheet in JSON. There is no network, so a request for a URL fails.
-/

namespace JsonQuery.Program

/-- What a path on the disk leads to. -/
def lookAt (path : String) : IO PathTarget := do
  try
    return .file (.text (← IO.FS.readFile path))
  catch problem =>
    match problem with
    | .noFileOrDirectory .. => return .missing
    | .inappropriateType .. => return .directory
    | other => throw other

/-- The directory with what the paths among the arguments lead to, by path. -/
def lookAtPaths (arguments : List CommandArgument) : IO (String → Except Fault PathTarget) := do
  let paths := (CommandArgument.pathOptions arguments).filterMap fun o =>
    CommandArgument.value? arguments o
  let found ← paths.mapM fun path => do return (path, ← lookAt path)
  return fun path => do
    checkPathText path
    return (found.lookup path).getD .missing

/-- The moment of the day, and its name. -/
def today : IO (Int × String) := do
  let seconds := (← Std.Time.Timestamp.now).toSecondsSinceUnixEpoch.val
  let text := (Moment.plainText? ⟨seconds, 0⟩).getD ""
  return (seconds, String.ofList (text.toList.takeWhile (· != ' ')))

/-- Writes lines to the terminal. -/
def showLines (lines : List String) : IO Unit := do
  IO.print (consoleText lines)
  (← IO.getStdout).flush

/-- Writes reports to the log. -/
def keepLog (log : LogSetup) (journal : Journal) : IO Unit := do
  let (seconds, _) ← today
  let output := log.output (journal.map fun e =>
    LogRecord.ofEntry e.source.name (.int seconds) e)
  IO.eprint output
  match log.file with
  | none => return
  | some path => IO.FS.withFile path .append fun file => file.putStr output

/-- The text that a payload is kept as. -/
def fileText : Payload → String
  | .text content => content
  | .sheet rows => Json.print .spaced (.array (rows.map .array))

/-- Saves a file and tells what came of it. -/
def saveFile (save : Save) : IO String := do
  try
    IO.FS.writeFile save.target (fileText save.payload)
    return save.report none
  catch problem =>
    match problem with
    | .inappropriateType .. => return save.report (some .isDirectory)
    | _ => return save.report (some .noDirectory)

/-- Shows what came of a step, and answers the workspace and whether nothing was rejected. -/
def showStep (log : LogSetup) (started : Nat) (step : WorkspaceStep Shown) :
    IO (Workspace × Bool) := do
  keepLog log step.journal
  match step.outcome with
  | .error fault => throw (IO.userError fault.message)
  | .ok shown =>
      match shown with
      | .saving save => showLines [← saveFile save]
      | other =>
          let taken := (← IO.monoMsNow) - started
          match other.print ((Binary64.ofInt? taken).getD .zero) with
          | .error fault => throw (IO.userError fault.message)
          | .ok lines => showLines lines
      return (step.workspace, shown.isSuccess)

/-- Holds a conversation until its end. -/
partial def converse (log : LogSetup) (day : String) (w : Workspace) (pending : List String) :
    IO Unit := do
  IO.print (promptText pending)
  (← IO.getStdout).flush
  let line ← (← IO.getStdin).getLine
  if line.isEmpty then showLines [""]
  else
    let reading := Reading.of pending (.line (line.dropEndWhile (· == '\n')).toString)
    let started ← IO.monoMsNow
    let (w, _) ← showStep log started (w.perform day reading)
    if reading = .exit then return
    else converse log day w (reading.pendingAfter pending)

/-- Tells what is wrong with the arguments. -/
def refuse (problem : UsageProblem) : IO UInt32 := do
  IO.eprintln ("Error: " ++ problem.message)
  return 2

/-- Tells how a command ended. -/
def tell (ending : CommandEnd) : IO UInt32 :=
  match ending with
  | .usage problem => refuse problem
  | .broken fault => throw (IO.userError fault.message)
  | .success | .failure => return ending.exitCode.toUInt32

/-- Loads the data, and runs the statement or holds the conversation. -/
def carryOut (find : String → Except Fault PathTarget) (arguments : List CommandArgument)
    (settings : Settings) : IO UInt32 := do
  let (_, day) ← today
  match LogSetup.ofSettings settings.logging with
  | .error fault => throw (IO.userError fault.message)
  | .ok log =>
      let network : Network := fun _ => .failure "no network"
      let step := (Workspace.start settings).loadSource find network arguments
      keepLog log step.journal
      match step.outcome with
      | .error fault => throw (IO.userError fault.message)
      | .ok told =>
          let (next, lines) := step.workspace.nextStep arguments told
          showLines lines
          match next with
          | .giveUp => return 1
          | .statement text =>
              let started ← IO.monoMsNow
              let (_, accepted) ← showStep log started (step.workspace.runStatement text)
              return if accepted then 0 else 1
          | .conversation =>
              IO.FS.withFile historyFile .append fun _ => pure ()
              converse log day step.workspace []
              return 0

end JsonQuery.Program

open JsonQuery JsonQuery.Program in
/-- Runs the command. -/
def main (args : List String) : IO UInt32 := do
  match CommandArgument.read args with
  | .error problem => refuse problem
  | .ok arguments =>
      if CommandArgument.asksHelp arguments then
        showLines helpLines
        return 0
      else
        let find ← lookAtPaths arguments
        match CommandArgument.check find arguments, commandSettings find arguments with
        | .error ending, _ => tell ending
        | .ok _, .ok settings => carryOut find arguments settings
        | .ok _, .error fault =>
            if fault.isSettingsProblem then refuse (.settings fault)
            else throw (IO.userError fault.message)
