import PatchReview.Review.Basic

-- Totals over the files of a review.
namespace PatchReview

namespace ReviewStats

def total (size : ReviewedFile → Nat) (files : List ReviewedFile) : Int :=
  ((files.map size).foldr (· + ·) 0 : Nat)

def ofFiles (files : List ReviewedFile) : ReviewStats where
  files := files.length
  issues := total (fun f => f.analysis.issues.length) files
  suggestions := total (fun f => f.analysis.suggestions.length) files
  security := total (fun f => f.analysis.securityIssues.length) files

end ReviewStats
end PatchReview
