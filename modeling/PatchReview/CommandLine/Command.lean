import PatchReview.CommandLine.Options
import PatchReview.Path
import PatchReview.Text.Spelled

-- The five commands, and how they are read from a command line.
namespace PatchReview
namespace CommandLine

structure PullOptions where
  owner : Text
  repository : Text
  number : Int
  token : Option Text
  format : Text
  post : Bool
  approve : Bool
  deriving DecidableEq, Repr

structure LocalOptions where
  base : Option Text
  compare : Option Text
  staged : Bool
  format : Text
  output : Option Path
  directory : Path
  deriving DecidableEq, Repr

structure SetupOptions where
  path : Path
  force : Bool
  deriving DecidableEq, Repr

structure ActionOptions where
  eventPath : Option Path
  format : Text
  post : Bool
  deriving DecidableEq, Repr

structure ScanOptions where
  paths : List Path
  recursive : Bool
  severity : Option Text
  output : Option Path
  deriving DecidableEq, Repr

inductive Command
  | pull (options : PullOptions)
  | workingTree (options : LocalOptions)
  | setup (options : SetupOptions)
  | action (options : ActionOptions)
  | scan (options : ScanOptions)
  | help
  deriving DecidableEq, Repr

def valued (key : Text) (names : List Text) : OptionSpec := ⟨key, names, .value⟩

def switch (key : Text) (names : List Text) : OptionSpec := ⟨key, names, .switch true⟩

def formatOption : OptionSpec := valued "format" ["--format", "-f"]

def outputOption : OptionSpec := valued "output" ["--output", "-o"]

def pullSpecs : List OptionSpec :=
  [valued "owner" ["--owner", "-o"], valued "repo" ["--repo", "-r"],
    valued "number" ["--pr-number", "-p"], valued "token" ["--token", "-t"], formatOption,
    switch "post" ["--post"], switch "approve" ["--approve"]]

def localSpecs : List OptionSpec :=
  [valued "base" ["--base", "-b"], valued "compare" ["--compare", "-c"],
    switch "staged" ["--staged", "-s"], formatOption, outputOption, valued "cwd" ["--cwd"]]

def setupSpecs : List OptionSpec := [valued "path" ["--path"], switch "force" ["--force"]]

def actionSpecs : List OptionSpec :=
  [valued "event" ["--event-path"], formatOption, switch "post" ["--post"],
    ⟨"post", ["--no-post"], .switch false⟩]

def scanSpecs : List OptionSpec :=
  [switch "recursive" ["--recursive", "-r"], valued "severity" ["--severity"], outputOption]

def usualFormat : Text := "markdown"

-- No path holds a null character.
def readPath (given : Text) : Except UsageError Path :=
  if given.contains '\x00' then .error (.notAPath given) else .ok (.ofText given)

def Arguments.path? (a : Arguments) (key : Text) : Except UsageError (Option Path) :=
  match a.text? key with
  | some given => some <$> readPath given
  | none => .ok none

def Arguments.format (a : Arguments) : Text := (a.text? "format").getD usualFormat

def required (a : Arguments) (key : Text) : Except UsageError Text :=
  match a.text? key with
  | some text => .ok text
  | none => .error (.missing key)

def noOthers (a : Arguments) : Except UsageError Unit :=
  match a.others with
  | [] => .ok ()
  | argument :: _ => .error (.extraArgument argument)

def readPull (a : Arguments) : Except UsageError Command := do
  let owner ← required a "owner"
  let repository ← required a "repo"
  let given ← required a "number"
  noOthers a
  match Text.spelledNumeral given with
  | .number number =>
    return .pull
      { owner, repository, number, token := a.text? "token", format := a.format
        post := a.isOn "post" false, approve := a.isOn "approve" false }
  | _ => throw (.notANumber given)

def readLocal (a : Arguments) : Except UsageError Command := do
  noOthers a
  return .workingTree
    { base := a.text? "base", compare := a.text? "compare", staged := a.isOn "staged" false
      format := a.format, output := ← a.path? "output", directory := (← a.path? "cwd").getD {} }

def readSetup (a : Arguments) : Except UsageError Command := do
  noOthers a
  return .setup
    { path := (← a.path? "path").getD (.ofText ".env.example"), force := a.isOn "force" false }

def readAction (a : Arguments) : Except UsageError Command := do
  noOthers a
  return .action { eventPath := ← a.path? "event", format := a.format, post := a.isOn "post" true }

def readScan (a : Arguments) : Except UsageError Command := do
  if a.others.isEmpty then throw (.missing "paths")
  return .scan
    { paths := ← a.others.mapM readPath, recursive := a.isOn "recursive" false
      severity := a.text? "severity", output := ← a.path? "output" }

-- Help is given before anything that is missing is missed.
def parseCommand (specs : List OptionSpec) (make : Arguments → Except UsageError Command)
    (arguments : List Text) : Except UsageError Command := do
  let a ← parseArguments .mixed specs {} arguments
  if a.wantsHelp then return .help else make a

-- What the arguments after the name of a command say.
def byName? (name : Text) : Option (List Text → Except UsageError Command) :=
  if name = "pr" then some (parseCommand pullSpecs readPull)
  else if name = "local" then some (parseCommand localSpecs readLocal)
  else if name = "setup" then some (parseCommand setupSpecs readSetup)
  else if name = "action" then some (parseCommand actionSpecs readAction)
  else if name = "scan" then some (parseCommand scanSpecs readScan)
  else none

-- The only option before the name of a command asks for help.
def parseTop (arguments : List Text) : Except UsageError Arguments :=
  parseArguments .optionsFirst [] {} arguments

-- What should be a command and is none is read as an option before it is refused, so that help may
-- also be asked for behind `--`.
def parse (arguments : List Text) : Except UsageError Command := do
  let top ← parseTop arguments
  if top.wantsHelp then return .help
  match top.others with
  | [] => throw .noCommand
  | name :: rest =>
    match byName? name with
    | some command => command rest
    | none =>
      let again ← parseTop (name :: rest)
      if again.wantsHelp then return .help else throw (.unknownCommand name)

end CommandLine
end PatchReview
