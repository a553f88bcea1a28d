import PatchReview.Report.Stats
import PatchReview.Text.Lines
import PatchReview.Text.Numeral

-- The overall account of a review in words: a full one for pull requests, a short one otherwise.
namespace PatchReview

-- What the account says about the pull request itself.
structure PullHeading where
  title : Text := []
  author : Text := []
  base : Text := []
  deriving DecidableEq, Repr

namespace Narrative

def product : Text := "PatchLens"

def overview (stats : ReviewStats) : List Text :=
  ["## Code Review Summary\n",
    "Analyzed " ++ Text.ofInt stats.files ++ " file(s) with " ++ product ++ ".\n",
    "### Overview",
    "- **Files Changed**: " ++ Text.ofInt stats.files,
    "- **Issues Found**: " ++ Text.ofInt stats.issues,
    "- **Suggestions**: " ++ Text.ofInt stats.suggestions,
    "- **Security Concerns**: " ++ Text.ofInt stats.security ++ "\n"]

def heading (pull : PullHeading) : List Text :=
  ["### Pull Request",
    "- **Title**: " ++ pull.title,
    "- **Author**: " ++ pull.author,
    "- **Base**: " ++ pull.base ++ "\n"]

def securityNote (stats : ReviewStats) : List Text :=
  if stats.security = 0 then []
  else
    ["⚠️ **Security**: Found " ++ Text.ofInt stats.security ++
      " potential security concern(s). Please review carefully.\n"]

-- Files without issues are left out.
def fileIssues (file : ReviewedFile) : List Text :=
  if file.analysis.issues.isEmpty then []
  else
    ("\n**" ++ file.filename ++ "**") ::
      file.analysis.issues.map fun issue => "- " ++ issue.description

def issuesByFile (files : List ReviewedFile) (stats : ReviewStats) : List Text :=
  if stats.issues = 0 then [] else "### Issues by File" :: files.flatMap fileIssues

def keyFindings (files : List ReviewedFile) (stats : ReviewStats) : List Text :=
  if stats.issues = 0 ∧ stats.security = 0 then []
  else "### Key Findings" :: (securityNote stats ++ issuesByFile files stats)

def footer : List Text := ["\n---", "*Reviewed with " ++ product ++ "*"]

def ofPull (files : List ReviewedFile) (stats : ReviewStats) (pull : Option PullHeading) : Text :=
  Text.unlines (overview stats ++ pull.elim [] heading ++ keyFindings files stats ++ footer)

def short (stats : ReviewStats) : Text :=
  "## Local Code Review\n\nAnalyzed " ++ Text.ofInt stats.files ++ " file(s).\n\nFound " ++
    Text.ofInt stats.issues ++ " issue(s) and " ++ Text.ofInt stats.suggestions ++
    " suggestion(s)."

end Narrative
end PatchReview
