import PatchReview.Analyzer
import PatchReview.Git
import PatchReview.Report.Narrative

-- Reviews of whole units: changed files one after another, their totals and account, and the
-- changes of a working tree.
namespace PatchReview
namespace Reviewing

def noteFound (analysis : FileReview) : Text :=
  "  " ++ analysis.rating.name ++ ": " ++ Text.ofNat analysis.issues.length ++ " issue(s), " ++
    Text.ofNat analysis.suggestions.length ++ " suggestion(s)"

def reviewFile (analyzer : Analyzer) (file : ChangedFile) : Run ReviewedFile := do
  Run.info .reviewing ("Reviewing " ++ file.filename ++ "...")
  let analysis ← analyzer.review file
  Run.info .reviewing (noteFound analysis)
  return { filename := file.filename, analysis
           changes := some ⟨some file.status.name, file.additions, file.deletions⟩ }

def reviewAll (analyzer : Analyzer) (files : List ChangedFile) : Run (List ReviewedFile) :=
  files.mapM (reviewFile analyzer)

def narrative (files : List ReviewedFile) (stats : ReviewStats) (scope : Option Scope)
    (pull : Option PullHeading) : Text :=
  if scope = some .pullRequest then Narrative.ofPull files stats pull else Narrative.short stats

def noteAggregated (stats : ReviewStats) : Run Unit :=
  Run.info .aggregation ("Aggregated " ++ Text.ofInt stats.files ++ " file(s): " ++
    Text.ofInt stats.issues ++ " issue(s), " ++ Text.ofInt stats.suggestions ++
    " suggestion(s), " ++ Text.ofInt stats.security ++ " security")

def sumUp (files : List ReviewedFile) (scope : Scope) (pull : Option PullHeading) :
    Run ReviewSet := do
  let stats := ReviewStats.ofFiles files
  noteAggregated stats
  return { summary := narrative files stats (some scope) pull, stats, files, scope }

-- A scope given by name; one that is not known is refused only after the totals are noted.
def sumUpNamed (files : List ReviewedFile) (scope : Json) (pull : Option PullHeading) :
    Run ReviewSet :=
  match Validation.named Scope [.field "scope"] scope with
  | .valid scope => sumUp files scope pull
  | .invalid problems => do
    noteAggregated (ReviewStats.ofFiles files)
    throw (.invalid { title := "ReviewSet", problems })

-- Which changes of a working tree to review.
structure LocalSource where
  directory : Text := "."
  staged : Bool := false
  base : Option Text := none
  compare : Option Text := none
  deriving DecidableEq, Repr

def LocalSource.changes (source : LocalSource) : Run (List ChangedFile) :=
  if source.staged then Git.stagedChanges source.directory
  else
    match source.base.filter (!·.isEmpty) with
    | some base => Git.branchDiff base source.compare source.directory
    | none => Git.uncommittedChanges source.directory

def reviewWorkingTree (analyzer : Analyzer) (source : LocalSource) : Run ReviewSet := do
  let files ← source.changes
  if files.isEmpty then Run.info .reviewing "No changes to review"
  sumUp (← reviewAll analyzer files) .workingTree none

end Reviewing
end PatchReview
