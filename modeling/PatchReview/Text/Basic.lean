-- Text as the program sees it: a list of characters.  Offsets and lengths therefore count code
-- points, and every operation below is an ordinary list operation.  No surrogate is a character, so
-- what is said about every text is said about every text that UTF-8 can hold; where half a pair of
-- surrogates can come in, as from an escape in JSON or from the name of a file, a type of its own
-- stands for it (`CodePoint`, `NamePart`).
namespace PatchReview

abbrev Text := List Char

instance : Coe String Text := ⟨String.toList⟩

namespace Text

-- What follows `start`, if the text begins with it.
def after? : (start text : Text) → Option Text
  | [], text => some text
  | _ :: _, [] => none
  | s :: start, c :: text => if s = c then after? start text else none

def startsWith (text start : Text) : Bool := (after? start text).isSome

-- The text before and after the first place where `needle` stands.
def cut? (needle : Text) : Text → Option (Text × Text)
  | [] => (after? needle []).map fun rest => ([], rest)
  | c :: text =>
    match after? needle (c :: text) with
    | some rest => some ([], rest)
    | none => (cut? needle text).map fun (before, rest) => (c :: before, rest)

def holds (text needle : Text) : Bool := (cut? needle text).isSome

-- The length in UTF-8.
def byteLength (text : Text) : Nat := (text.map Char.utf8Size).foldr (· + ·) 0

def joinWith (gap : Text) (parts : List Text) : Text := gap.intercalate parts

-- Pieces between occurrences of `c`; there is always one more piece than occurrences.
def splitAt (c : Char) : Text → List Text
  | [] => [[]]
  | x :: rest =>
    if x = c then [] :: splitAt c rest
    else
      match splitAt c rest with
      | [] => [[x]]
      | piece :: pieces => (x :: piece) :: pieces

-- The part after the last `c`, if there is one.
def afterLast? (c : Char) (text : Text) : Option Text :=
  if c ∈ text then (text.reverse.takeWhile (· ≠ c)).reverse else none

def dropEndWhile (p : Char → Bool) (text : Text) : Text := (text.reverse.dropWhile p).reverse

def trimWhile (p : Char → Bool) (text : Text) : Text := dropEndWhile p (text.dropWhile p)

-- Each way of writing the text as `left ++ right`, shortest left part first.
def splits : Text → List (Text × Text)
  | [] => [([], [])]
  | c :: rest => ([], c :: rest) :: (splits rest).map fun (left, right) => (c :: left, right)

theorem after?_append (start rest : Text) : after? start (start ++ rest) = some rest := by
  induction start with
  | nil => rfl
  | cons c start ih => simpa [after?] using ih

theorem splitAt_ne_nil (c : Char) (text : Text) : splitAt c text ≠ [] := by
  induction text with
  | nil => simp [splitAt]
  | cons x rest ih =>
    unfold splitAt
    split
    · simp
    · split <;> simp

end Text
end PatchReview
