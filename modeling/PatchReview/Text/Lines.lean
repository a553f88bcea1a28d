import PatchReview.Text.Basic

-- Lines.  Patches and reviews are cut at line feeds only; a file's lines are counted at every
-- character that ends a line.
namespace PatchReview.Text

def lines (text : Text) : List Text := splitAt '\n' text

def unlines (parts : List Text) : Text := joinWith "\n" parts

-- Lines with their own line feed kept; only the last may lack one, and none is empty.
def terminatedLines : Text → List Text
  | [] => []
  | c :: rest =>
    if c = '\n' then ['\n'] :: terminatedLines rest
    else
      match terminatedLines rest with
      | [] => [[c]]
      | line :: more => (c :: line) :: more

-- Carriage return, vertical tab, form feed, three separators, next line, and the Unicode line
-- and paragraph separators end a line as a line feed does.
def endsLine (c : Char) : Bool :=
  c.toNat ∈ [0xa, 0xb, 0xc, 0xd, 0x1c, 0x1d, 0x1e, 0x85, 0x2028, 0x2029]

-- Pieces ended by a boundary; a final boundary starts no further piece, and a carriage return
-- followed by a line feed is one boundary.
def boundedLines : Text → List Text
  | [] => []
  | '\r' :: '\n' :: rest => [] :: boundedLines rest
  | c :: rest =>
    if endsLine c then [] :: boundedLines rest
    else
      match boundedLines rest with
      | [] => [[c]]
      | line :: more => (c :: line) :: more

-- Reading text folds every carriage return, alone or before a line feed, into a line feed.
def normalizeNewlines : Text → Text
  | [] => []
  | '\r' :: '\n' :: rest => '\n' :: normalizeNewlines rest
  | c :: rest => (if c = '\r' then '\n' else c) :: normalizeNewlines rest

end PatchReview.Text
