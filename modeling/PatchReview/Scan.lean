import PatchReview.Rule.Table
import PatchReview.Text.Lines

-- Scanning: the rules over the lines of one file's patch, and the review that follows from what
-- they find.  Security findings and severe ones are issues, all others are suggestions.
namespace PatchReview
namespace Scan

def withoutDiff : Text := "No diff available for analysis"

def withoutFindings : Text := "Code looks good! No major issues detected."

def isIssue (finding : Finding) : Bool :=
  finding.category = .security || finding.severity.isHigh

-- Suggestions never count.
def rate (issues : List Finding) (hasPatch : Bool) : Rating :=
  if !issues.isEmpty then .needsAttention
  else if !hasPatch then .neutral
  else .good

def summaryOf (issues suggestions : List Finding) : Text :=
  let severe := issues.filter (·.severity.isHigh)
  if issues.isEmpty ∧ suggestions.isEmpty then withoutFindings
  else if !severe.isEmpty then
    "Found " ++ Text.ofNat severe.length ++ " high-priority issue(s) that should be addressed."
  else
    "Found " ++ Text.ofNat (issues.length + suggestions.length) ++ " item(s) to review: " ++
      Text.ofNat issues.length ++ " issue(s), " ++ Text.ofNat suggestions.length ++
      " suggestion(s)."

-- What the rules find at one line, given its number and the line after it.
def atLine (number : Nat) (line : Text) (following : Option Text) : List Finding :=
  ((RuleTable.lineRules.filter (·.fires line)).map fun rule => rule.finding number line) ++
    (RuleTable.lookaheadRules.filter (·.fires line following)).map fun rule =>
      rule.finding number line

def fromLine (number : Nat) : List Text → List Finding
  | [] => []
  | line :: rest => atLine number line rest.head? ++ fromLine (number + 1) rest

-- Lines count from one.
def lineFindings (lines : List Text) : List Finding := fromLine 1 lines

def patchFindings (filename patch : Text) : List Finding :=
  lineFindings (Text.lines patch) ++
    (RuleTable.patchRules.filter fun rule => rule.concerns filename && rule.fires patch).map
      PatchRule.finding

def reviewByRules (file : ChangedFile) : FileReview :=
  if file.patch.isEmpty then
    { filename := file.filename, rating := rate [] false, summary := withoutDiff }
  else
    let findings := patchFindings file.filename file.patch
    let issues := findings.filter isIssue
    let suggestions := findings.filter fun finding => !isIssue finding
    { filename := file.filename, rating := rate issues true
      summary := summaryOf issues suggestions, issues, suggestions }

end Scan
end PatchReview
