import PatchReview.Text.Numeral

-- Whole numbers as they may be spelled: plain ones, and those with space around them, a plus sign,
-- zeros in front, underscores between digits, or a point with nothing but zeros behind it.
namespace PatchReview.Text

-- A minus sign at most, then a lone zero or digits that do not begin with zero.  Too many of them
-- are noticed before whatever follows.
def plainNumeral (text : Text) : Numeral :=
  let (negative, body) :=
    match text with
    | '-' :: rest => (true, rest)
    | rest => (false, rest)
  let digits := body.takeWhile isAsciiDigit
  match digits with
  | [] => .unreadable
  | '0' :: _ => if body = ['0'] then .number 0 else .unreadable
  | _ =>
    if digitLimit < digits.length then .tooLong digits.length
    else if digits.length < body.length then .unreadable
    else .number (signed negative (ofAsciiDigits digits))

-- Zeros and underscores are passed over, down to the first digit that counts, a sign, or the last
-- of them before a point.
def afterZeros? : (last : Char) → Text → Option Text
  | last, [] => some [last]
  | last, c :: rest =>
    if c = '0' ∨ c = '_' then afterZeros? c rest
    else if isAsciiDigit c ∨ c = '-' then some (c :: rest)
    else if c = '.' then some (last :: c :: rest)
    else none

def startDigits? : Text → Option Text
  | '0' :: rest => afterZeros? '0' rest
  | c :: rest => if isAsciiDigit c then some (c :: rest) else none
  | [] => none

-- A point is dropped together with the zeros behind it, of which there must be one.
def dropPointZeros (text : Text) : Text :=
  match cut? "." text with
  | some (before, after) => if !after.isEmpty && after.all (· = '0') then before else text
  | none => text

-- Underscores that are not single ones inside stay, and spoil the number.
def dropUnderscores (text : Text) : Text :=
  if isWellGrouped text then text.filter (· ≠ '_') else text

-- The plain spelling that another spelling stands for.
def plainSpelling? (text : Text) : Option Text :=
  let (sign, body) : Text × Text :=
    match trimWhile isPadding text with
    | '+' :: '-' :: _ => ([], [])
    | '+' :: rest => ([], rest)
    | '-' :: rest => (['-'], rest)
    | rest => ([], rest)
  (startDigits? body).map fun digits => sign ++ dropUnderscores (dropPointZeros digits)

-- Only a plain number is said to be too long; any other spelling of such a one is unreadable.
def spelledNumeral (text : Text) : Numeral :=
  match plainNumeral text with
  | .unreadable =>
    match (plainSpelling? text).map plainNumeral with
    | some (.number n) => .number n
    | _ => .unreadable
  | found => found

end PatchReview.Text
