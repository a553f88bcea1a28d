import PatchReview.Text.CharClass

-- Sets of characters, as a pattern names them.
namespace PatchReview

inductive CharSet
  | oneOf (members : Text)
  | range (low high : Char)
  | blank
  | word
  | digit
  | either (left right : CharSet)
  | except (left : CharSet)
  -- A character belongs if its folded letter does, in lower or in upper case.
  | anyCase (left : CharSet)
  deriving DecidableEq, Repr

namespace CharSet

def contains : CharSet → Char → Bool
  | oneOf members, c => members.contains c
  | range low high, c => low ≤ c && c ≤ high
  | blank, c => Text.isBlank c
  | word, c => Text.isWord c
  | digit, c => Text.isDigit c
  | either left right, c => left.contains c || right.contains c
  | except left, c => !left.contains c
  | anyCase left, c => left.contains (Text.fold c) || left.contains (Text.fold c).toUpper

-- Every character but the line feed.
def inLine : CharSet := except (oneOf "\n")

def quote : CharSet := oneOf "'\""

def lineBlank : CharSet := oneOf " \t"

-- Letters and digits of ASCII.
def alphanumeric : CharSet :=
  either (range 'A' 'Z') (either (range 'a' 'z') (range '0' '9'))

end CharSet
end PatchReview
