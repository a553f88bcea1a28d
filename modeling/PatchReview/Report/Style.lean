import PatchReview.Pattern.Capture
import PatchReview.Text.Numeral

-- Decoration of terminal text: a sequence that sets a style in front, and a reset behind.
namespace PatchReview

inductive Style
  | bright
  | dim
  | red
  | green
  | yellow
  | blue
  | magenta
  | cyan
  deriving DecidableEq, Repr

namespace Style

def all : List (Text × Style) :=
  [("bright", bright), ("dim", dim), ("red", red), ("green", green), ("yellow", yellow),
    ("blue", blue), ("magenta", magenta), ("cyan", cyan)]

def ofName? (name : Text) : Option Style := (all.find? fun entry => entry.1 = name).map (·.2)

def code : Style → Nat
  | bright => 1
  | dim => 2
  | red => 31
  | green => 32
  | yellow => 33
  | blue => 34
  | magenta => 35
  | cyan => 36

def sequence (code : Nat) : Text := "\x1b[" ++ Text.ofNat code ++ "m"

def styled (style : Style) (text : Text) : Text := sequence style.code ++ text ++ sequence 0

-- Without a style, or when not enabled, the text is not given to what styles it.
def paintWith (styled : Style → Text → Text) (enabled : Bool) (style : Option Style) (text : Text) :
    Text :=
  match style with
  | some s => if enabled then styled s text else text
  | none => text

def paint (enabled : Bool) (style : Option Style) (text : Text) : Text :=
  paintWith styled enabled style text

def letter : CharSet := .either (.range 'a' 'z') (.range 'A' 'Z')

-- Any control sequence, not only those that set a style.
def controlSequence : Capture where
  lead := .seqs [.exactly "\x1b[", .any (.oneOf ";?0123456789"), .char letter]
  body := .nothing
  tail := .nothing

def strip (text : Text) : Text := controlSequence.keepBodies text

end Style
end PatchReview
