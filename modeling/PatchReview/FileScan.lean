import PatchReview.Reviewing

-- Scanning files on disk: the whole content of a file takes the place of a patch.
namespace PatchReview
namespace FileScan

-- A file stands for itself, and a directory, on request, for every file below it.
def expand (recursive : Bool) (given : Text) : Run (List Path) := do
  let path := Path.ofText given
  if Git.hasNull given then Run.refuse (.pathNotFound path.text)
  let tree := (← get).files
  match tree.ask path with
  | .error cause => throw (.file cause)
  | .ok (some (.file _)) => return [path]
  | .ok (some .directory) =>
    if recursive then
      match tree.filesUnder path with
      | .error cause => throw (.file cause)
      | .ok files => return files
    else
      Run.log .warning .reviewing ("Skipping directory " ++ path.text ++ " (use --recursive)")
      return []
  | .ok _ => Run.refuse (.pathNotFound path.text)

def expandAll (paths : List Text) (recursive : Bool) : Run (List Path) :=
  List.flatten <$> paths.mapM (expand recursive)

def reviewContent (path : Path) (content : Text) : ReviewedFile :=
  let file : ChangedFile :=
    { filename := path.text, patch := content, additions := (Text.boundedLines content).length }
  { filename := file.filename, analysis := Scan.reviewByRules file }

-- A changed file has a name that is text.
def unnamed (path : Path) : Validation.Report where
  title := "ChangedFile"
  problems := [⟨[.field "filename"], .notUnicode, .illFormed path.whole.points⟩]

-- A file that is not text is passed over.
def reviewPath (path : Path) : Run (Option ReviewedFile) := do
  match (← get).files.read path with
  | .error cause => throw (.file cause)
  | .ok bytes =>
    match Text.decodeUtf8 bytes with
    | .error _ => return none
    | .ok content =>
      if path.whole.isText then
        return some (reviewContent path (Text.normalizeNewlines content))
      else throw (.invalid (unnamed path))

def reviewPaths (paths : List Text) (recursive : Bool) : Run ReviewSet := do
  let files ← (← expandAll paths recursive).mapM reviewPath
  Reviewing.sumUp (files.filterMap id) .fileScan none

end FileScan
end PatchReview
