import PatchReview.World
import PatchReview.Text.Lines

-- Changes of a git working tree: what is staged, what is not committed, and what differs between
-- two branches.  Every command consumes one reply, which also tells whether git could be started in
-- the directory it was to run in.
namespace PatchReview
namespace Git

-- With no reply left a command succeeds and prints nothing.  A command that was run may have
-- changed files, also when it failed.
def nextReply (arguments : List Text) (directory : Text) : Run GitReply :=
  modifyGet fun w =>
    let reply := w.gitReplies.headD (.output [])
    let files := if reply.wasRun then w.gitLeaves arguments directory w.files else w.files
    (reply, { w with gitReplies := w.gitReplies.tail, files })

def failureDetail (status : Int) (complaint : Option Text) : Text :=
  let said := Text.trim (complaint.getD [])
  if said.isEmpty then "exit status " ++ Text.ofInt status else said

def command (arguments : List Text) (directory : Text) : Run Text := do
  Run.record (.git arguments directory)
  match ← nextReply arguments directory with
  | .output text => return text
  | .failed status complaint =>
    Run.refuse (.gitFailed arguments (failureDetail status complaint))
  | .undecodable cause => Run.refuse (.outputNotText cause)
  | .missing => Run.refuse .gitMissing
  | .notStarted cause => throw cause.fault

def currentBranch (directory : Text) : Run Text :=
  Text.trim <$> command ["rev-parse", "--abbrev-ref", "HEAD"] directory

def readDiff (diff : Text) : Run (List ChangedFile) :=
  match Diff.changedFiles diff with
  | .ok files => pure files
  | .error cause => Run.refuse (.badDiff cause)

def stagedChanges (directory : Text) : Run (List ChangedFile) := do
  let files ← Run.because .stagedChanges do readDiff (← command ["diff", "--cached"] directory)
  Run.info .git ("Found " ++ Text.ofNat files.length ++ " staged file(s)")
  return files

def hasNull (text : Text) : Bool := text.contains '\x00'

-- A file that is not tracked, as an added one; nothing if its content is not text.
def readUntracked (path directory : Text) : Run (Option ChangedFile) := do
  let place := (Path.ofText directory).join (Path.ofText path)
  if hasNull place.text then Run.refuse .nullInPath
  else
    match (← get).files.read place with
    | .error cause => Run.refuse (.untrackedUnreadable path cause)
    | .ok bytes =>
      match Text.decodeUtf8 bytes with
      | .error _ => return none
      | .ok content =>
        let lines := Text.boundedLines (Text.normalizeNewlines content)
        return some
          { filename := path, status := .added
            patch := Text.unlines (lines.map ('+' :: ·)), additions := lines.length }

def untrackedChanges (directory : Text) : Run (List ChangedFile) := do
  let output ← command ["ls-files", "--others", "--exclude-standard"] directory
  let paths := (Text.boundedLines output).filter (!·.isEmpty)
  return (← paths.mapM fun path => readUntracked path directory).filterMap id

-- Changes of tracked files, and then the files that are not tracked.
def uncommittedChanges (directory : Text) : Run (List ChangedFile) := do
  let files ← Run.because .uncommittedChanges do
    let tracked ← readDiff (← command ["diff"] directory)
    return tracked ++ (← untrackedChanges directory)
  Run.info .git ("Found " ++ Text.ofNat files.length ++ " changed file(s) in working tree")
  return files

-- Without a branch to compare, or with an empty name, the current one is compared.
def branchDiff (base : Text) (compare : Option Text) (directory : Text) :
    Run (List ChangedFile) := do
  let (files, branch) ← Run.because .branchDiff do
    let branch ←
      match compare.filter (!·.isEmpty) with
      | some branch => pure branch
      | none => currentBranch directory
    let files ← readDiff (← command ["diff", base, branch] directory)
    return (files, branch)
  Run.info .git ("Found " ++ Text.ofNat files.length ++ " changed file(s) between " ++ base ++
    " and " ++ branch)
  return files

end Git
end PatchReview
