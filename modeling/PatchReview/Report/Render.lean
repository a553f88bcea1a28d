import PatchReview.Json.Document
import PatchReview.Report.Markdown
import PatchReview.Report.Plain
import PatchReview.Review.Json

-- Reports by the name of their format.
namespace PatchReview

inductive ReportFormat
  | json
  | text
  | github
  | markdown
  deriving DecidableEq, Repr

namespace ReportFormat

-- Case does not matter, and a name that is not known means markdown, as does none at all.
def ofName (name : Option Text) : ReportFormat :=
  let plain := Text.lower (name.getD [])
  if plain = "json" then json
  else if plain = "text" then text
  else if plain = "github" then github
  else markdown

end ReportFormat

namespace ReviewSet

def renderWith (styled : Style → Text → Text) (format : ReportFormat) (color : Bool)
    (review : ReviewSet) : Text :=
  match format with
  | .json => review.toJson.pretty
  | .text => PlainReport.render (Style.paintWith styled color) review
  | .github => MarkdownReport.posted review
  | .markdown => MarkdownReport.render review

def render (format : ReportFormat) (color : Bool) (review : ReviewSet) : Text :=
  review.renderWith Style.styled format color

-- Read back from JSON text.
def ofDocument (document : Text) (signCounts : Bool := false) :
    Except Validation.Report ReviewSet :=
  match Json.Document.read document signCounts with
  | .ok value => (ofJson value).mapError fun report => { report with form := .document }
  | .error flaw =>
    .error { title := "ReviewSet", form := .document,
             problems := [⟨[], .notJson (flaw.message document), .string document⟩] }

end ReviewSet
end PatchReview
