import PatchReview.Text.Basic

-- Code points: characters, and the surrogates, which are none.  An escape can spell half a pair of
-- surrogates alone, so a spelled text need not be a text of characters.
namespace PatchReview.Text

inductive CodePoint
  | char (c : Char)
  | surrogate (n : Nat)
  deriving DecidableEq, Repr

namespace CodePoint

def isHighSurrogate (n : Nat) : Bool := 0xd800 ≤ n && n < 0xdc00

def isLowSurrogate (n : Nat) : Bool := 0xdc00 ≤ n && n < 0xe000

def ofNat (n : Nat) : CodePoint :=
  if isHighSurrogate n || isLowSurrogate n then .surrogate n else .char (Char.ofNat n)

-- The character above U+FFFF that two surrogates stand for.
def paired (high low : Nat) : Char :=
  Char.ofNat (0x10000 + (high - 0xd800) * 0x400 + (low - 0xdc00))

def isChar : CodePoint → Bool
  | char _ => true
  | surrogate _ => false

-- The character itself, or the one that stands in for what is none.
def shown : CodePoint → Char
  | char c => c
  | surrogate _ => '\ufffd'

end CodePoint

-- The text that code points show.
def ofCodePoints (points : List CodePoint) : Text := points.map CodePoint.shown

end PatchReview.Text
