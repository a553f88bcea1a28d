import PatchReview.CommandLine.Execute

-- The program.  It gathers the environment and the files that the command line names, carries out
-- the command on them, and writes back what has changed.  The directories above named files are
-- taken to exist until writing shows otherwise.  No service is reached from here: git counts as not
-- installed, the code host as unavailable, and the language model says nothing.  No file `.env` is
-- read, and no level is set for the log.
namespace PatchReview.Program

def environmentNames : List String :=
  ["GITHUB_TOKEN", "GEMINI_API_KEY", "GEMINI_MODEL", "USE_MOCK", "CI", "GITHUB_ACTIONS",
    "GITHUB_EVENT_PATH", "GITHUB_REPOSITORY"]

def eventVariable : Text := "GITHUB_EVENT_PATH"

def unavailableHost : CodeHost where
  pull number := { number := .int number }
  files := []
  commits := []
  reviewId := 0
  failures _ := some (.status 503 .null)

-- An argument may name a file by itself or after an equals sign.
def namedPaths (arguments : List Text) : List Path :=
  arguments.flatMap fun argument =>
    match Text.cut? "=" argument with
    | some (_, value) => [.ofText argument, .ofText value]
    | none => [.ofText argument]

def readEnvironment : IO (List (Text × Text)) :=
  environmentNames.filterMapM fun name => do
    return (← IO.getEnv name).map fun value => (name.toList, value.toList)

def readFile? (path : Path) : IO (Option (Place × Text.Bytes)) := do
  try
    let content ← IO.FS.readBinFile (String.ofList path.text)
    return some (.ofPath path, content.toList)
  catch _ => return none

def writeChanged (before after : FileTree) : IO Unit :=
  (before.changedFiles after).forM fun (place, content) =>
    IO.FS.writeBinFile (String.ofList place.path.text) (ByteArray.mk content.toArray)

def loadWorld (arguments : List Text) : IO World := do
  let environment ← readEnvironment
  let event := (environment.filter fun (name, _) => name = eventVariable).map (·.2)
  let paths := Path.ofText ".env.example" :: event.map Path.ofText ++ namedPaths arguments
  let tree : FileTree :=
    { files := ← paths.filterMapM readFile?
      emptyDirectories := paths.map fun path => (Place.ofPath path).dropLast }
  return {
    environment, isTerminal := ← (← IO.getStdout).isTty, files := tree
    gitReplies := [.missing], host := unavailableHost }

def run (command : CommandLine.Command) (arguments : List Text) : IO UInt32 := do
  let world ← loadWorld arguments
  let (outcome, after) := ((CommandLine.execute command).run).run world
  writeChanged world.files after.files
  IO.print (String.ofList after.printed)
  IO.eprint (String.ofList after.complained)
  match outcome with
  | .ok code => return .ofNat code
  | .error fault =>
    IO.eprintln (String.ofList fault.message)
    return 1

end PatchReview.Program

open PatchReview in
def main (arguments : List String) : IO UInt32 := do
  let arguments := arguments.map String.toList
  match CommandLine.parse arguments with
  | .ok command => Program.run command arguments
  | .error e =>
    IO.eprintln (String.ofList ("Usage: ".toList ++ e.message))
    return 2
