import PatchReview.Pattern.Basic
import PatchReview.Review.Basic
import PatchReview.Text.Numeral
import PatchReview.Text.Template

-- Detection rules.  A line rule looks at one line, a look-ahead rule at a line and the one after
-- it, and a patch rule at a whole patch of certain kinds of files.
namespace PatchReview

-- What a description may say about the line that it is about.
inductive LineSlot
  | line
  | length
  deriving DecidableEq, Repr

def LineSlot.name : LineSlot → Text
  | .line => "line"
  | .length => "length"

-- The line is shown trimmed, but its length is that of the whole line.
def LineSlot.value (line : Text) : LineSlot → Text
  | .line => Text.trim line
  | .length => Text.ofNat line.length

structure RuleInfo where
  name : Text
  category : Category
  severity : Severity
  description : Template LineSlot
  deriving DecidableEq, Repr

namespace RuleInfo

def wording (info : RuleInfo) (line : Text) : Text := info.description.fill (LineSlot.value line)

def finding (info : RuleInfo) (number : Nat) (line : Text) : Finding :=
  { category := info.category, severity := info.severity, line := some number,
    description := info.wording line, rule := some info.name }

end RuleInfo

structure LineRule extends RuleInfo where
  pattern : Pattern
  deriving DecidableEq, Repr

def LineRule.fires (rule : LineRule) (line : Text) : Bool := rule.pattern.foundIn line

-- One leading marker of a patch line: added, removed or context.
def dropDiffMarker : Text → Text
  | '+' :: rest => rest
  | '-' :: rest => rest
  | ' ' :: rest => rest
  | line => line

structure LookaheadRule extends RuleInfo where
  pattern : Pattern
  next : Pattern
  deriving DecidableEq, Repr

def LookaheadRule.fires (rule : LookaheadRule) (line : Text) (following : Option Text) : Bool :=
  match following with
  | none => false
  | some after =>
    rule.pattern.foundIn line && rule.next.matchesAll (Text.trim (dropDiffMarker after))

structure PatchRule extends RuleInfo where
  pattern : Pattern
  extensions : List Text
  deriving DecidableEq, Repr

namespace PatchRule

def concerns (rule : PatchRule) (filename : Text) : Bool :=
  match Text.afterLast? '.' filename with
  | none => false
  | some extension => rule.extensions.contains (Text.lower extension)

def fires (rule : PatchRule) (patch : Text) : Bool := rule.pattern.foundIn patch

-- The description of a patch rule has no line to speak of.
def finding (rule : PatchRule) : Finding :=
  { category := rule.category, severity := rule.severity,
    description := rule.description.written LineSlot.name, rule := some rule.name }

end PatchRule

inductive Rule
  | line (rule : LineRule)
  | lookahead (rule : LookaheadRule)
  | patch (rule : PatchRule)
  deriving DecidableEq, Repr

namespace Rule

def info : Rule → RuleInfo
  | line rule => rule.toRuleInfo
  | lookahead rule => rule.toRuleInfo
  | patch rule => rule.toRuleInfo

def kind : Rule → Text
  | line _ => "line"
  | lookahead _ => "lookahead"
  | patch _ => "patch"

end Rule
end PatchReview
