import PatchReview.Review.Names

-- What a review consumes and produces: changed files, findings, reviews of files, and the review of
-- one whole unit with its totals.
namespace PatchReview

-- `patch` holds the hunks only and may be empty.
structure ChangedFile where
  filename : Text
  status : ChangeStatus := .modified
  patch : Text := []
  additions : Int := 0
  deletions : Int := 0
  previousFilename : Option Text := none
  deriving DecidableEq, Repr

-- `line` counts the lines of the patch from one.
structure Finding where
  category : Category
  severity : Severity := .low
  line : Option Int := none
  description : Text
  rule : Option Text := none
  deriving DecidableEq, Repr

structure FileReview where
  filename : Text
  rating : Rating
  summary : Text
  issues : List Finding := []
  suggestions : List Finding := []
  source : Origin := .static
  deriving DecidableEq, Repr

def FileReview.securityIssues (review : FileReview) : List Finding :=
  review.issues.filter (·.category = .security)

structure FileChanges where
  status : Option Text := none
  additions : Int := 0
  deletions : Int := 0
  deriving DecidableEq, Repr

structure ReviewedFile where
  filename : Text
  changes : Option FileChanges := none
  analysis : FileReview
  deriving DecidableEq, Repr

structure ReviewStats where
  files : Int := 0
  issues : Int := 0
  suggestions : Int := 0
  security : Int := 0
  deriving DecidableEq, Repr

structure ReviewSet where
  summary : Text := []
  stats : ReviewStats := {}
  files : List ReviewedFile := []
  scope : Scope := .pullRequest
  deriving DecidableEq, Repr

end PatchReview
