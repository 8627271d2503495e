import JsonQuery.Console.Arguments
import JsonQuery.Console.Repl
import JsonQuery.Json.Nesting
import JsonQuery.Log.Setup

/-!
The command: settings, log and data are made ready in this order, and then one statement is
run or a conversation begins. Each part is a function of what it needs, and `runCommand`
puts them together over the files of a directory.
-/

namespace JsonQuery

/-- The file that keeps what was typed at the prompt. -/
def historyFile : String := ".playground_history"

/-- The text of a file. -/
def Payload.text? : Payload → Option String
  | .text content => some content
  | .sheet _ => none

/-- The text of the file at a path. Every line break in it counts as a line feed. -/
def PathTarget.text : PathTarget → String
  | .file (.text content) => String.ofList (normalizeBreaks content.toList)
  | _ => ""

/-- Whether a fault is one of the settings file rather than of reading it. -/
def Fault.isSettingsProblem : Fault → Bool
  | .unknownSettings .. | .sectionNotMapping _ | .settingsNotMapping | .noSettingsFile _ => true
  | _ => false

/-- Settings with what the arguments say in their place. -/
def Settings.override (s : Settings) (arguments : List CommandArgument) : Settings :=
  let query := match CommandArgument.aggregates? arguments with
    | none => s.query
    | some on => { s.query with enableAggregates := .bool on }
  let logging := match CommandArgument.filled? arguments .logLevel with
    | none => s.logging
    | some level => { s.logging with level := .string level }
  { s with query := query, logging := logging }

/-- The settings of a command. -/
def commandSettings (find : String → Except Fault PathTarget) (arguments : List CommandArgument) :
    Except Fault Settings := do
  let settings ← match CommandArgument.filled? arguments .config with
    | none => pure Settings.default
    | some path => Settings.ofFile path (some (← find path).text)
  return settings.override arguments

/-- Loads the data of a command: from a file if one is given, and from a URL otherwise. The
outcome tells whether there is data, and the line that says so. -/
def Workspace.loadSource (w : Workspace) (find : String → Except Fault PathTarget)
    (network : Network) (arguments : List CommandArgument) : WorkspaceStep (Bool × String) :=
  match CommandArgument.filled? arguments .file with
  | some path =>
      match (find path).bind fun target => Json.readOutside target.text with
      | .error fault => ⟨w, .error fault, []⟩
      | .ok data =>
          let step := w.load data none
          ⟨step.workspace, step.outcome.map fun _ => (true, "Loaded " ++ path), step.journal⟩
  | none =>
      let url := (CommandArgument.filled? arguments .url).getD ""
      let step := w.fetch network (.string url)
      let told : Except FetchProblem Fetched → Bool × String
        | .ok fetched => (true, "Fetched " ++ url ++ " (HTTP " ++ toString fetched.status ++ ")")
        | .error problem => (false, "error: " ++ problem.message)
      ⟨step.workspace, step.outcome.map told, step.journal⟩

/-- What comes next after the data of a command was loaded. -/
inductive CommandNext where
  /-- There is nothing to query. -/
  | giveUp
  | statement (text : String)
  | conversation
  deriving DecidableEq, Repr

/-- What comes next, and the lines that are shown before it. -/
def Workspace.nextStep (w : Workspace) (arguments : List CommandArgument) (loaded : Bool × String) :
    CommandNext × List String :=
  if !loaded.1 then (.giveUp, [loaded.2])
  else match w.session.reason? with
    | some reason => (.giveUp, [loaded.2, reason.message])
    | none =>
        match CommandArgument.filled? arguments .statement with
        | some text => (.statement text, [loaded.2])
        | none => (.conversation, [loaded.2, "Type queries terminated by ';'. Use \\q to exit.",
            "Use .schema, .samples, .reset or " ++ exportUsage ++ "."])

/-- Everything that can be seen of a command. -/
structure CommandRun where
  ending : CommandEnd
  lines : List String
  prompts : List String
  directory : Directory
  /-- How the log is kept, once that is settled. -/
  log : Option LogSetup
  journal : Journal

/-- What surrounds a command: its directory, the network, the day, the milliseconds that
every statement takes, and what is typed at the prompt. -/
structure Surroundings where
  directory : Directory
  network : Network
  today : String
  elapsed : Binary64
  typed : List Typed

namespace Surroundings

/-- A command that ended before any data was loaded. -/
def stopped (s : Surroundings) (ending : CommandEnd) : CommandRun :=
  ⟨ending, [], [], s.directory, none, []⟩

/-- Runs one statement. -/
def finishWithStatement (s : Surroundings) (begun : CommandRun) (w : Workspace) (text : String) :
    CommandRun :=
  let step := w.runStatement text
  let run := { begun with journal := begun.journal ++ step.journal }
  match step.outcome with
  | .error fault => { run with ending := .broken fault }
  | .ok shown =>
      match shown.print s.elapsed with
      | .error fault => { run with ending := .broken fault }
      | .ok lines =>
          let (written, fault?) := writtenLines lines
          { run with
            lines := begun.lines ++ written
            ending := match fault? with
              | some fault => .broken fault
              | none => if shown.isSuccess then .success else .failure }

/-- Holds a conversation. -/
def finishWithConversation (s : Surroundings) (begun : CommandRun) (w : Workspace) : CommandRun :=
  let directory := match begun.directory.append historyFile "" with
    | .ok kept => kept
    | .error _ => begun.directory
  let held := (Conversation.start w directory).converse s.today s.elapsed [] s.typed
  { begun with
    lines := begun.lines ++ held.lines, prompts := held.prompts, directory := held.directory
    journal := begun.journal ++ held.journal
    ending := match held.fault with
      | none => .success
      | some fault => .broken fault }

/-- Carries out a command with settings. -/
def carryOut (s : Surroundings) (arguments : List CommandArgument) (settings : Settings)
    (log : LogSetup) (directory : Directory) : CommandRun :=
  let step := (Workspace.start settings).loadSource s.directory.find s.network arguments
  let loaded : CommandRun := ⟨.success, [], [], directory, some log, step.journal⟩
  match step.outcome with
  | .error fault => { loaded with ending := .broken fault }
  | .ok told =>
      let (next, lines) := step.workspace.nextStep arguments told
      let begun := { loaded with lines := lines }
      match next with
      | .giveUp => { begun with ending := .failure }
      | .statement text => s.finishWithStatement begun step.workspace text
      | .conversation => s.finishWithConversation begun step.workspace

/-- The directory once the file of the log is there. -/
def withLogFile (s : Surroundings) (log : LogSetup) : Except Fault Directory :=
  match log.file with
  | none => .ok s.directory
  | some path => s.directory.append path ""

end Surroundings

/-- Runs the command with the given arguments. -/
def runCommand (s : Surroundings) (args : List String) : CommandRun :=
  match CommandArgument.read args with
  | .error problem => s.stopped (.usage problem)
  | .ok arguments =>
      if CommandArgument.asksHelp arguments then { s.stopped .success with lines := helpLines }
      else match CommandArgument.check s.directory.find arguments with
        | .error ending => s.stopped ending
        | .ok _ =>
            match commandSettings s.directory.find arguments with
            | .error fault =>
                s.stopped (if fault.isSettingsProblem then .usage (.settings fault)
                  else .broken fault)
            | .ok settings =>
                let prepared := do
                  let log ← LogSetup.ofSettings settings.logging
                  return (log, ← s.withLogFile log)
                match prepared with
                | .error fault => s.stopped (.broken fault)
                | .ok (log, directory) => s.carryOut arguments settings log directory

end JsonQuery
