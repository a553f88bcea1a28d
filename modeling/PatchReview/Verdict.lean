import PatchReview.World

-- What a review comes to: its security findings, most severe first, and the event under which it is
-- posted.
namespace PatchReview
namespace Verdict

-- An empty filter is none; any other must be the name of a severity, in any case.
def wantedSeverity (filter : Option Text) : Except Refusal (Option Severity) :=
  match filter.filter (!·.isEmpty) with
  | none => .ok none
  | some given =>
    match Named.ofName? (Text.lower given) with
    | some severity => .ok (some severity)
    | none => .error (.severity given)

def securityPairs (review : ReviewSet) : List (Text × Finding) :=
  review.files.flatMap fun file =>
    file.analysis.securityIssues.map fun issue => (file.filename, issue)

def noLessSevere (a b : Text × Finding) : Bool := a.2.severity.rank ≤ b.2.severity.rank

-- Findings of one severity keep the order of their files, and their order within a file.
def mostSevereFirst (review : ReviewSet) (filter : Option Text) :
    Except Refusal (List (Text × Finding)) :=
  (wantedSeverity filter).map fun wanted =>
    ((securityPairs review).filter fun pair => wanted.all (· = pair.2.severity)).mergeSort
      noLessSevere

def anyCritical (findings : List (Text × Finding)) : Bool :=
  findings.any fun pair => pair.2.severity = .critical

def eventFor (stats : ReviewStats) (approve : Bool) : Text :=
  if stats.security ≠ 0 then "REQUEST_CHANGES"
  else if approve ∧ stats.issues = 0 then "APPROVE"
  else "COMMENT"

end Verdict
end PatchReview
