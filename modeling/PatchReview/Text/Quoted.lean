import PatchReview.Text.CodePoint
import PatchReview.Text.Numeral

-- Quoted text for messages.  Single quotes are used unless the text holds a single quote and no
-- double quote; what has no visible form is written as an escape of two, four or eight digits.
namespace PatchReview.Text

def quoteMark (text : Text) : Char :=
  if '\x27' ∈ text ∧ '"' ∉ text then '"' else '\x27'

def quoteChar (mark c : Char) : Text :=
  if c = mark ∨ c = '\\' then ['\\', c]
  else if c = '\n' then "\\n"
  else if c = '\r' then "\\r"
  else if c = '\t' then "\\t"
  else if isVisible c then [c]
  else if c.toNat < 0x100 then "\\x" ++ hex 2 c.toNat
  else if c.toNat < 0x10000 then "\\u" ++ hex 4 c.toNat
  else "\\U" ++ hex 8 c.toNat

def quoted (text : Text) : Text :=
  let mark := quoteMark text
  mark :: text.flatMap (quoteChar mark) ++ [mark]

def quotePoint (mark : Char) : CodePoint → Text
  | .char c => quoteChar mark c
  | .surrogate n => "\\u" ++ hex 4 n

def quotedPoints (points : List CodePoint) : Text :=
  let mark := quoteMark (ofCodePoints points)
  mark :: points.flatMap (quotePoint mark) ++ [mark]

end PatchReview.Text
