import PatchReview.Pattern.Capture

-- Taking markup out of text for plain output: headings, bold marks, links, code marks and bullets.
-- Characters are only left out, never added.
namespace PatchReview
namespace Markup

open Pattern

-- One to six number signs and the blank after them.
def heading : Capture where
  lead := seqs [many (.oneOf "#") 1 (Option.some 6), char .blank]
  body := nothing
  tail := nothing

-- `[label](target)`, of which the label stays.
def link : Capture where
  lead := exactly "["
  body := Pattern.some (.except (.oneOf "]"))
  tail := seqs [exactly "](", Pattern.some (.except (.oneOf ")")), exactly ")"]

-- A bullet at the start of a line, of which the blanks before it stay.
def bulletMark : Capture where
  lead := lineStart
  body := any .blank
  tail := seqs [char (.oneOf "-*"), Pattern.some .blank]

def dropBold : Text → Text
  | '*' :: '*' :: rest => dropBold rest
  | c :: rest => c :: dropBold rest
  | [] => []

def codeMark : Char := '\x60'

def strip (text : Text) : Text :=
  let text := dropBold (heading.keepBodies text)
  let text := (link.keepBodies text).filter (· ≠ codeMark)
  Text.trim (bulletMark.keepBodies text)

end Markup
end PatchReview
