import PatchReview.Text.Basic

-- The closed vocabularies of a review: how severe, what about, how rated, how changed, found by
-- whom, and over what unit.  Each value has one written name.
namespace PatchReview

class Named (α : Type) where
  all : List α
  name : α → Text

def Named.ofName? {α : Type} [Named α] (name : Text) : Option α :=
  (Named.all : List α).find? fun a => Named.name a = name

inductive Severity
  | low
  | medium
  | high
  | critical
  deriving DecidableEq, Repr

namespace Severity

def name : Severity → Text
  | low => "low"
  | medium => "medium"
  | high => "high"
  | critical => "critical"

def label : Severity → Text
  | low => "LOW"
  | medium => "MEDIUM"
  | high => "HIGH"
  | critical => "CRITICAL"

def isHigh : Severity → Bool
  | high | critical => true
  | low | medium => false

-- Most severe first.
def rank : Severity → Nat
  | critical => 0
  | high => 1
  | medium => 2
  | low => 3

instance : Named Severity := ⟨[low, medium, high, critical], name⟩

end Severity

inductive Category
  | security
  | style
  | maintenance
  | bestPractice
  | potentialBug
  | performance
  deriving DecidableEq, Repr

namespace Category

def name : Category → Text
  | security => "security"
  | style => "style"
  | maintenance => "maintenance"
  | bestPractice => "best-practice"
  | potentialBug => "potential-bug"
  | performance => "performance"

instance : Named Category :=
  ⟨[security, style, maintenance, bestPractice, potentialBug, performance], name⟩

end Category

inductive Rating
  | good
  | needsAttention
  | poor
  | neutral
  deriving DecidableEq, Repr

namespace Rating

def name : Rating → Text
  | good => "good"
  | needsAttention => "needs-attention"
  | poor => "poor"
  | neutral => "neutral"

instance : Named Rating := ⟨[good, needsAttention, poor, neutral], name⟩

end Rating

inductive ChangeStatus
  | added
  | modified
  | deleted
  | removed
  | renamed
  | copied
  | changed
  | unchanged
  deriving DecidableEq, Repr

namespace ChangeStatus

def name : ChangeStatus → Text
  | added => "added"
  | modified => "modified"
  | deleted => "deleted"
  | removed => "removed"
  | renamed => "renamed"
  | copied => "copied"
  | changed => "changed"
  | unchanged => "unchanged"

instance : Named ChangeStatus :=
  ⟨[added, modified, deleted, removed, renamed, copied, changed, unchanged], name⟩

end ChangeStatus

-- Who found it: the rules of this library, or a language model.
inductive Origin
  | static
  | llm
  deriving DecidableEq, Repr

namespace Origin

def name : Origin → Text
  | static => "static"
  | llm => "llm"

instance : Named Origin := ⟨[static, llm], name⟩

end Origin

inductive Scope
  | pullRequest
  | workingTree
  | fileScan
  deriving DecidableEq, Repr

namespace Scope

def name : Scope → Text
  | pullRequest => "pr"
  | workingTree => "local"
  | fileScan => "scan"

instance : Named Scope := ⟨[pullRequest, workingTree, fileScan], name⟩

end Scope
end PatchReview
