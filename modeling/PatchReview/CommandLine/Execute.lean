import PatchReview.CommandLine.Command
import PatchReview.Event
import PatchReview.FileScan
import PatchReview.PullReview

-- Carrying out a command.  A command ends with an exit code; whatever it refuses is reported with a
-- line that begins with `Error:`, and the code is then one.
--
-- The program has started by then, and start-up itself is taken to have succeeded: settings that a
-- file `.env` adds stand in the environment, and `LOG_LEVEL` names a level or is not set.  With
-- another name the program ends while it is loaded, and no command line is accepted at all.
namespace PatchReview
namespace CommandLine

abbrev ExitCode := Nat

-- Control sequences are for terminals only.
def forStream (isTerminal : Bool) (text : Text) : Text :=
  if isTerminal then text else Style.strip text

def echo (text : Text) : Run Unit :=
  modify fun w => { w with printed := w.printed ++ forStream w.isTerminal (text ++ "\n") }

def complain (text : Text) : Run Unit :=
  modify fun w => { w with complained := w.complained ++ forStream w.isTerminal (text ++ "\n") }

def fail (message : Text) : Run ExitCode := do
  complain ("Error: " ++ message)
  return 1

-- Goes on with the value, or ends with the reason why there is none.
def orFail {α : Type} (action : Run α) (next : α → Run ExitCode) : Run ExitCode := do
  match ← Run.refusable action with
  | .ok value => next value
  | .error message => fail message

def writeFile (path : Path) (text : Text) : Run Unit := do
  match (← get).files.write path (Text.encodeUtf8 text) with
  | .ok files => modify fun w => { w with files }
  | .error cause => throw (.file cause)

def reportPull (repository : Text) (number : Int) (state : PullReview.State) (format : Text)
    (color : Bool) : Run ExitCode := do
  if let some review := state.review then
    echo (review.render (.ofName (some format)) color)
  match state.error.filter (!·.isEmpty) with
  | some message => fail message
  | none =>
    if state.posted then
      echo ("✅ Posted " ++ state.event.getD "None" ++ " review #" ++
        (state.reviewId.map Text.ofInt).getD "None" ++ " on " ++ repository ++ "#" ++
        Text.ofInt number)
    return 0

-- The token is asked for before the name of the repository is looked at.
def checkAccess (settings : Settings) (repository : Json) : Run (Text × Text) := do
  return (← settings.requireToken, ← Repository.validateGiven repository)

def runPull (repository : Json) (number : Int) (settings : Settings) (format : Text)
    (post approve : Bool) : Run ExitCode :=
  orFail (checkAccess settings repository) fun (token, repository) => do
    let analyzer ← Analyzer.ofSettings settings
    let state ← PullReview.run { repository, number, token, analyzer, post, approve }
    reportPull repository number state format settings.color

def runPullCommand (options : PullOptions) : Run ExitCode := do
  let settings ← Settings.resolve options.token
  runPull (.string (options.owner ++ "/" ++ options.repository)) options.number settings
    options.format options.post options.approve

def runLocal (options : LocalOptions) : Run ExitCode := do
  let settings ← Settings.resolve none
  let reviewing : Run ReviewSet := do
    let analyzer ← Analyzer.ofSettings settings
    Reviewing.reviewWorkingTree analyzer
      { directory := options.directory.text, staged := options.staged, base := options.base
        compare := options.compare }
  orFail reviewing fun review => do
    let text := review.render (.ofName (some options.format))
      (settings.color && options.output.isNone)
    match options.output with
    | none => echo text
    | some path =>
      writeFile path text
      echo ("📁 Review saved to: " ++ path.text)
    return 0

def environmentExample : Text :=
  Text.unlines [
    "# PatchLens configuration",
    "# GitHub personal access token (repo scope), used by \x60pr\x60 and \x60action\x60",
    "GITHUB_TOKEN=your_github_token_here",
    "",
    "# Optional: Gemini API key. When set, files are reviewed by Gemini and the",
    "# pattern scanner is only used as a fallback.",
    "GEMINI_API_KEY=",
    "",
    "# Optional: Gemini model override",
    "GEMINI_MODEL=gemini-2.5-flash-lite",
    "",
    "# Optional: return a canned Gemini response instead of calling the API",
    "USE_MOCK=false",
    "",
    "# Optional: DEBUG, INFO, WARNING, ERROR",
    "LOG_LEVEL=INFO",
    ""]

def runSetup (options : SetupOptions) : Run ExitCode := do
  match (← get).files.ask options.path with
  | .error cause => throw (.file cause)
  | .ok found =>
    if found.isSome ∧ !options.force then
      fail (options.path.text ++ " already exists (use --force to overwrite)")
    else
      writeFile options.path environmentExample
      echo ("✅ Wrote " ++ options.path.text)
      echo "Copy it to .env and fill in GITHUB_TOKEN (and GEMINI_API_KEY if wanted)."
      return 0

def runAction (options : ActionOptions) : Run ExitCode := do
  let settings ← Settings.resolve none
  let fallback := (← Run.envValue? "GITHUB_EVENT_PATH").map Path.ofText
  match options.eventPath.orElse fun _ => fallback with
  | none =>
    fail "GITHUB_EVENT_PATH not set. Run inside GitHub Actions or pass --event-path."
  | some path =>
    orFail (Event.read path) fun reference =>
      runPull reference.repository reference.number settings options.format options.post false

def severityIcon : Severity → Text
  | .critical => "🔴"
  | .high => "🟠"
  | .medium => "🟡"
  | .low => "⚪"

def findingLines (filename : Text) (finding : Finding) : List Text :=
  let subject := (finding.rule.filter (!·.isEmpty)).getD finding.description
  [severityIcon finding.severity ++ " [" ++ finding.severity.label ++ "] " ++ subject,
    "   File: " ++ filename ++ ":" ++ (finding.line.map Text.ofInt).getD "None"]

def levels : List Severity := [.critical, .high, .medium, .low]

def countLine (findings : List (Text × Finding)) (level : Severity) : Text :=
  level.label ++ ": " ++
    Text.ofNat (findings.filter fun pair => pair.2.severity = level).length

def findingsReport (findings : List (Text × Finding)) : List Text :=
  if findings.isEmpty then ["✅ No security issues found!"]
  else
    (findings.flatMap fun pair => findingLines pair.1 pair.2) ++ [[]] ++
      levels.map (countLine findings)

def scanHeader (review : ReviewSet) (found : Nat) : List Text :=
  ["🔒 Security Scanner\n", "Scanned " ++ Text.ofInt review.stats.files ++ " files",
    "Found " ++ Text.ofNat found ++ " security issues\n"]

def scanReport (review : ReviewSet) (findings : List (Text × Finding)) : List Text :=
  scanHeader review findings.length ++ findingsReport findings

-- The exit code is one if a critical finding is among those asked for.
def runScan (options : ScanOptions) : Run ExitCode := do
  let scanning : Run (ReviewSet × List (Text × Finding)) := do
    let review ← FileScan.reviewPaths (options.paths.map Path.text) options.recursive
    match Verdict.mostSevereFirst review options.severity with
    | .ok findings => return (review, findings)
    | .error cause => Run.refuse cause
  orFail scanning fun (review, findings) => do
    (scanReport review findings).forM echo
    if let some path := options.output then
      writeFile path (review.render .json false)
      echo ("\n📁 Report saved to: " ++ path.text)
    return if Verdict.anyCritical findings then 1 else 0

def execute : Command → Run ExitCode
  | .pull options => runPullCommand options
  | .workingTree options => runLocal options
  | .setup options => runSetup options
  | .action options => runAction options
  | .scan options => runScan options
  | .help => return 0

end CommandLine
end PatchReview
