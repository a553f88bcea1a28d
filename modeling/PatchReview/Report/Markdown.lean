import PatchReview.Review.Basic
import PatchReview.Text.Lines
import PatchReview.Text.Numeral

-- The markdown report, and the shorter body of a review that is posted.
namespace PatchReview

def Rating.badge : Rating → Text
  | .good => "✅ **Good** - No major issues detected"
  | .needsAttention => "⚠️ **Needs Attention** - Some issues found"
  | .poor => "❌ **Issues Found** - Requires changes before merge"
  | .neutral => ""

namespace MarkdownReport

def badgeNamed (name : Option Text) : Text := ((name.bind Named.ofName?).map Rating.badge).getD []

def statusMark (status : Option Text) : Text :=
  let known : Option ChangeStatus := status.bind Named.ofName?
  match known with
  | some .added => "✨"
  | some .removed => "🗑️"
  | some .deleted => "🗑️"
  | some .modified => "📝"
  | some .renamed => "📦"
  | _ => "📄"

def totalsTable (stats : ReviewStats) (filesLabel securityCell : Text) : List Text :=
  ["| Metric | Value |",
    "|--------|-------|",
    "| " ++ filesLabel ++ " | " ++ Text.ofInt stats.files ++ " |",
    "| Issues Found | " ++ Text.ofInt stats.issues ++ " |",
    "| Suggestions | " ++ Text.ofInt stats.suggestions ++ " |",
    "| " ++ securityCell ++ " |"]

-- Counts of zero are not mentioned.
def changeSizes (changes : FileChanges) : Text :=
  let added : List Text :=
    if changes.additions = 0 then [] else ["+" ++ Text.ofInt changes.additions]
  let removed : List Text :=
    if changes.deletions = 0 then [] else ["-" ++ Text.ofInt changes.deletions]
  if changes.additions = 0 ∧ changes.deletions = 0 then "None"
  else Text.joinWith ", " (added ++ removed)

def changeLines (changes : Option FileChanges) : List Text :=
  match changes with
  | none => []
  | some changes => ["**Changes:** " ++ changeSizes changes ++ "\n"]

def badgeLines (rating : Rating) : List Text :=
  if rating.badge.isEmpty then [] else [rating.badge ++ "\n"]

def summaryLines (summary : Text) : List Text :=
  if summary.isEmpty then [] else ["**Summary:** " ++ summary ++ "\n"]

def issueLine (issue : Finding) : Text :=
  "- " ++ issue.description ++ " **[" ++ issue.severity.label ++ "]**"

def suggestionLine (suggestion : Finding) : Text := "- " ++ suggestion.description

def issueLines (issues : List Finding) : List Text :=
  if issues.isEmpty then [] else "#### Issues\n" :: (issues.map issueLine ++ [[]])

def suggestionLines (suggestions : List Finding) : List Text :=
  if suggestions.isEmpty then []
  else "#### Suggestions\n" :: (suggestions.map suggestionLine ++ [[]])

def titleLine (file : ReviewedFile) : Text :=
  "### " ++ statusMark (file.changes.bind (·.status)) ++ " " ++ file.filename ++ "\n"

def fileLines (file : ReviewedFile) : List Text :=
  let analysis := file.analysis
  titleLine file :: changeLines file.changes ++ badgeLines analysis.rating ++
    summaryLines analysis.summary ++ issueLines analysis.issues ++
    suggestionLines analysis.suggestions

def file (file : ReviewedFile) : Text := Text.unlines (fileLines file)

def accountLines (summary : Text) : List Text := if summary.isEmpty then [] else [summary ++ "\n"]

def opening : List Text := ["# Code Review Results\n", "## Summary\n"]

def beforeFiles : List Text := ["---\n", "## File Reviews\n"]

def render (review : ReviewSet) : Text :=
  Text.unlines <|
    opening ++
    totalsTable review.stats "Files Analyzed"
      ("Security Concerns | " ++ Text.ofInt review.stats.security) ++
    [[]] ++ accountLines review.summary ++ beforeFiles ++ review.files.map file

def postedOpening : List Text := ["## Code Review Summary\n", "🤖 *Analyzed with PatchLens*\n"]

-- Totals and account only.
def posted (review : ReviewSet) : Text :=
  let icon : Text := if review.stats.security = 0 then "✅" else "⚠️"
  Text.unlines <|
    postedOpening ++
    totalsTable review.stats "Files Changed"
      ("Security | " ++ icon ++ " " ++ Text.ofInt review.stats.security) ++
    [[]] ++ accountLines review.summary

end MarkdownReport
end PatchReview
