import PatchReview.Report.Markup
import PatchReview.Report.Style
import PatchReview.Review.Basic
import PatchReview.Text.Lines

-- The plain text report, painted by what is given to paint its parts.
namespace PatchReview
namespace PlainReport

def ratingStyle : Rating → Option Style
  | .good => some .green
  | .needsAttention => some .yellow
  | .poor => some .red
  | .neutral => none

section
variable (paint : Option Style → Text → Text)

def issueLines (issues : List Finding) : List Text :=
  if issues.isEmpty then []
  else
    paint (some .red) "   Issues:" ::
      issues.map fun issue =>
        paint (some .yellow) ("   - " ++ issue.description ++ " [" ++ issue.severity.name ++ "]")

def suggestionLines (suggestions : List Finding) : List Text :=
  if suggestions.isEmpty then []
  else
    paint (some .cyan) "   Suggestions:" ::
      suggestions.map fun suggestion => "   - " ++ suggestion.description

def summaryLines (summary : Text) : List Text :=
  if summary.isEmpty then [] else ["   " ++ Markup.strip summary]

def fileLines (file : ReviewedFile) : List Text :=
  let analysis := file.analysis
  [paint (some .bright) ("📄 " ++ file.filename),
    paint (ratingStyle analysis.rating) ("   Rating: " ++ analysis.rating.name)] ++
    summaryLines analysis.summary ++ issueLines paint analysis.issues ++
    suggestionLines paint analysis.suggestions

def file (file : ReviewedFile) : Text := Text.unlines (fileLines paint file) ++ "\n"

def rule (c : Char) : Text := paint (some .cyan) (List.replicate 60 c)

def overall (summary : Text) : List Text :=
  if summary.isEmpty then []
  else [paint (some .bright) "Overall Review:", Markup.strip summary ++ "\n"]

def render (review : ReviewSet) : Text :=
  Text.unlines <|
    [rule paint '═', paint (some .bright) "  CODE REVIEW RESULTS", rule paint '═' ++ "\n",
      paint (some .bright) "Summary:",
      "  Files analyzed: " ++ Text.ofInt review.stats.files,
      "  Issues found:   " ++ Text.ofInt review.stats.issues,
      "  Suggestions:    " ++ Text.ofInt review.stats.suggestions,
      "  Security:       " ++ Text.ofInt review.stats.security ++ "\n"] ++
    overall paint review.summary ++
    [rule paint '─', paint (some .bright) "File Reviews:", rule paint '─' ++ "\n"] ++
    review.files.map (file paint)

end

end PlainReport
end PatchReview
