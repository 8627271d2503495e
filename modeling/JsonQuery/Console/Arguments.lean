import JsonQuery.Storage.Directory
import JsonQuery.Text.Literal
import JsonQuery.Text.Similarity

/-!
The arguments of a command: options with a value, a switch, and what is neither. Arguments
are first read as they stand, and then the paths among them are looked at in the order in
which their options were first given.
-/

namespace JsonQuery

/-- An option that takes a value. -/
inductive ValueOption where
  | config
  | url
  | file
  | statement
  | logLevel
  deriving DecidableEq, Repr

namespace ValueOption

/-- All options that take a value. -/
def all : List ValueOption := [.config, .url, .file, .statement, .logLevel]

/-- The name of an option. -/
def long : ValueOption → String
  | .config => "--config"
  | .url => "--url"
  | .file => "--file"
  | .statement => "--execute"
  | .logLevel => "--log-level"

/-- The letter of an option. -/
def letter? : ValueOption → Option Char
  | .config => some 'c'
  | .url => some 'u'
  | .file => some 'f'
  | .statement => some 'e'
  | .logLevel => none

/-- Whether the value of an option is the path of a file that has to be there. -/
def isPath : ValueOption → Bool
  | .config | .file => true
  | _ => false

end ValueOption

/-- An option without a value. -/
inductive Switch where
  | aggregates (on : Bool)
  | help
  deriving DecidableEq, Repr

/-- The switches by name. -/
def switches : List (String × Switch) :=
  [("--aggregates", .aggregates true), ("--no-aggregates", .aggregates false), ("--help", .help)]

/-- The names of all options. -/
def optionNames : List String := ValueOption.all.map ValueOption.long ++ switches.map (·.1)

/-- What an argument means. -/
inductive CommandArgument where
  | value (option : ValueOption) (text : String)
  | switch (s : Switch)
  /-- What belongs to no option. -/
  | extra (text : String)
  deriving DecidableEq, Repr

/-- Why a command cannot be carried out as it was given. -/
inductive UsageProblem where
  | noSuchOption (name : String) (close : List String)
  | valueMissing (name : String)
  | valueUnwanted (name : String)
  | noFile (option : ValueOption) (path : String)
  | isDirectory (option : ValueOption) (path : String)
  | extraArguments (texts : List String)
  | noSource
  | settings (fault : Fault)
  deriving DecidableEq, Repr

namespace UsageProblem

/-- The option whose value is bad. -/
def optionHint (option : ValueOption) : String :=
  let names := (option.letter?.map fun c => "-" ++ c.toString).toList ++ [option.long]
  "Invalid value for " ++ " / ".intercalate (names.map fun name => "'" ++ name ++ "'") ++ ": "

/-- The wording of a problem. -/
def message : UsageProblem → String
  | .noSuchOption name close =>
      let hint := match close with
        | [] => ""
        | [only] => " Did you mean " ++ only ++ "?"
        | several => " (Possible options: " ++ ", ".intercalate (Text.sortTexts several) ++ ")"
      "No such option: " ++ name ++ hint
  | .valueMissing name => "Option " ++ Text.literal name ++ " requires an argument."
  | .valueUnwanted name => "Option " ++ Text.literal name ++ " does not take a value."
  | .noFile option path =>
      optionHint option ++ "File " ++ Text.literal path ++ " does not exist."
  | .isDirectory option path =>
      optionHint option ++ "File " ++ Text.literal path ++ " is a directory."
  | .extraArguments texts =>
      "Got unexpected extra argument" ++ (if texts.length == 1 then "" else "s") ++
        " (" ++ " ".intercalate texts ++ ")"
  | .noSource => "Provide --url or --file"
  | .settings fault => fault.message

end UsageProblem

/-- How a command ended. -/
inductive CommandEnd where
  | success
  /-- Something was rejected or could not be had, and the lines tell what. -/
  | failure
  | usage (problem : UsageProblem)
  | broken (fault : Fault)
  deriving DecidableEq, Repr

/-- The status with which a command exits. -/
def CommandEnd.exitCode : CommandEnd → Nat
  | .success => 0
  | .failure | .broken _ => 1
  | .usage _ => 2

/-- What the beginning of an argument says about it. -/
inductive ArgumentHead where
  /-- An option with its value in the same argument, or before it in an argument of its
  own; the name by which the option is called. -/
  | option (option : ValueOption) (name : String) (value : Option String)
  | switch (s : Switch)
  | extra
  /-- Everything behind it belongs to no option. -/
  | stop
  | problem (p : UsageProblem)

namespace ArgumentHead

/-- An argument that begins with two dashes. A value may follow the name behind an equals
sign. -/
def ofLong (arg : String) : ArgumentHead :=
  let (nameChars, valueChars?) := Text.cutAt '=' arg.toList
  let name := String.ofList nameChars
  match ValueOption.all.find? fun known => known.long == name with
  | some known => .option known name (valueChars?.map String.ofList)
  | none =>
      match switches.lookup name with
      | some s => if valueChars?.isSome then .problem (.valueUnwanted name) else .switch s
      | none => .problem (.noSuchOption name (Text.closeMatches name optionNames))

/-- An argument that begins with one dash and a letter. What stands behind the letter is
its value. -/
def ofShort (letter : Char) (rest : List Char) : ArgumentHead :=
  let name := "-" ++ letter.toString
  match ValueOption.all.find? fun known => known.letter? == some letter with
  | some known =>
      .option known name (if rest.isEmpty then none else some (String.ofList rest))
  | none => .problem (.noSuchOption name [])

/-- What the beginning of an argument says about it. -/
def of (arg : String) : ArgumentHead :=
  match arg.toList with
  | ['-', '-'] => .stop
  | '-' :: '-' :: _ => ofLong arg
  | '-' :: letter :: rest => ofShort letter rest
  | _ => .extra

end ArgumentHead

/-- Reads arguments as they stand. The value of an option may be any argument at all. -/
def CommandArgument.read : List String → Except UsageProblem (List CommandArgument)
  | [] => .ok []
  | arg :: rest =>
      match ArgumentHead.of arg with
      | .problem p => .error p
      | .stop => .ok (rest.map .extra)
      | .extra => (CommandArgument.read rest).map (.extra arg :: ·)
      | .switch s => (CommandArgument.read rest).map (.switch s :: ·)
      | .option known _ (some text) => (CommandArgument.read rest).map (.value known text :: ·)
      | .option known name none =>
          match rest with
          | [] => .error (.valueMissing name)
          | text :: rest => (CommandArgument.read rest).map (.value known text :: ·)

namespace CommandArgument

/-- The value of an option: the last one that was given. -/
def value? (arguments : List CommandArgument) (option : ValueOption) : Option String :=
  (arguments.filterMap fun a => match a with
    | .value given text => if given = option then some text else none
    | _ => none).getLast?

/-- The value of an option unless it is empty. -/
def filled? (arguments : List CommandArgument) (option : ValueOption) : Option String :=
  (value? arguments option).filter (!·.isEmpty)

/-- Whether groups are computed, if the arguments say so; the last one decides. -/
def aggregates? (arguments : List CommandArgument) : Option Bool :=
  (arguments.filterMap fun a => match a with
    | .switch (.aggregates on) => some on
    | _ => none).getLast?

/-- Whether help is asked for. -/
def asksHelp (arguments : List CommandArgument) : Bool := arguments.contains (.switch .help)

/-- The arguments that belong to no option. -/
def extras (arguments : List CommandArgument) : List String :=
  arguments.filterMap fun a => match a with
    | .extra text => some text
    | _ => none

/-- The options with a path in the order in which they were first given. -/
def pathOptions (arguments : List CommandArgument) : List ValueOption :=
  (arguments.filterMap fun a => match a with
    | .value option _ => if option.isPath then some option else none
    | _ => none).eraseDups

/-- Refuses an option whose path leads to no file. -/
def checkPath (find : String → Except Fault PathTarget) (arguments : List CommandArgument)
    (option : ValueOption) : Except CommandEnd Unit :=
  match value? arguments option with
  | none => .ok ()
  | some path =>
      match find path with
      | .error fault => .error (.broken fault)
      | .ok .missing => .error (.usage (.noFile option path))
      | .ok .directory => .error (.usage (.isDirectory option path))
      | .ok (.file _) => .ok ()

/-- Refuses paths that lead to no file, then extra arguments, and then a command that names
no data. -/
def check (find : String → Except Fault PathTarget) (arguments : List CommandArgument) :
    Except CommandEnd Unit := do
  (pathOptions arguments).forM (checkPath find arguments)
  if !(extras arguments).isEmpty then
    .error (.usage (.extraArguments (extras arguments)))
  else if (filled? arguments .url).isNone && (filled? arguments .file).isNone then
    .error (.usage .noSource)
  else .ok ()

end CommandArgument

/-- What is shown when help is asked for. -/
def helpLines : List String := [
  "Usage: cli [OPTIONS]",
  "",
  "  Entry point for the api-playground CLI.",
  "",
  "Options:",
  "  -c, --config FILE               Path to YAML config file.",
  "  -u, --url TEXT                  Public JSON API endpoint to fetch.",
  "  -f, --file FILE                 Local JSON file to load instead of a URL.",
  "  -e, --execute TEXT              Run one query and exit.",
  "  --aggregates / --no-aggregates  Evaluate GROUP BY and aggregate functions.",
  "  --log-level TEXT                Logging level (DEBUG, INFO, WARNING, ERROR).",
  "  --help                          Show this message and exit."]

end JsonQuery
