import PatchReview.Text.Basic
import PatchReview.Text.Digits
import PatchReview.Text.Hidden
import PatchReview.Text.Letters

-- Character classes: blank characters, word characters, characters with a visible form, and the
-- folding of letters that ignores case.  ASCII is decided by cases; everything else by table.
namespace PatchReview.Text

def inRanges (ranges : List (Nat × Nat)) (c : Char) : Bool :=
  ranges.any fun (low, high) => low ≤ c.toNat && c.toNat ≤ high

-- Spaces, line and paragraph ends, and the four information separators U+001C to U+001F.
def isBlank (c : Char) : Bool :=
  inRanges [(0x9, 0xd), (0x1c, 0x20), (0x85, 0x85), (0xa0, 0xa0), (0x1680, 0x1680),
    (0x2000, 0x200a), (0x2028, 0x2029), (0x202f, 0x202f), (0x205f, 0x205f), (0x3000, 0x3000)] c

-- Space that may surround a number: blank space without the information separators.
def isPadding (c : Char) : Bool := isBlank c && !(0x1c ≤ c.toNat && c.toNat ≤ 0x1f)

-- Letters, numbers and the underscore.
def isWord (c : Char) : Bool :=
  if c.toNat < 128 then c.isAlphanum || c == '_' else inRanges letterRanges c

def isVisible (c : Char) : Bool :=
  if c.toNat < 128 then 32 ≤ c.toNat && c.toNat < 127 else !inRanges hiddenRanges c

-- The lower-case letter that stands for a letter when case is ignored: one character for one.
-- Four letters beyond ASCII fold to an ASCII letter: İ and ı to i, ſ to s, the Kelvin sign to k.
def fold (c : Char) : Char :=
  if c = '\u0130' ∨ c = '\u0131' then 'i'
  else if c = '\u017f' then 's'
  else if c = '\u212a' then 'k'
  else c.toLower

-- Lower-casing, exact for every question about ASCII letters in the result: besides A to Z only
-- the dotted capital I (which keeps its dot as U+0307) and the Kelvin sign produce one.
def lowerChar (c : Char) : Text :=
  if c = '\u0130' then ['i', '\u0307']
  else if c = '\u212a' then ['k']
  else [c.toLower]

def lower (text : Text) : Text := text.flatMap lowerChar

def trim (text : Text) : Text := trimWhile isBlank text

def trimEnd (text : Text) : Text := dropEndWhile isBlank text

end PatchReview.Text
