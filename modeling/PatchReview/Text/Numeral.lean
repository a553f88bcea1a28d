import PatchReview.Text.CharClass

-- Whole numbers as text: plain decimal out, and in from what a person may type.
namespace PatchReview.Text

def ofNat (n : Nat) : Text := Nat.toDigits 10 n

def ofInt : Int → Text
  | .ofNat n => ofNat n
  | .negSucc n => '-' :: ofNat (n + 1)

def hexDigit (n : Nat) : Char := (Nat.digitChar (n % 16))

-- Exactly `width` lower-case hexadecimal digits, the lowest ones if there are more.
def hex : (width n : Nat) → Text
  | 0, _ => []
  | width + 1, n => hex width (n / 16) ++ [hexDigit n]

def hexValue? (c : Char) : Option Nat :=
  if '0' ≤ c ∧ c ≤ '9' then some (c.toNat - 48)
  else if 'a' ≤ c ∧ c ≤ 'f' then some (c.toNat - 87)
  else if 'A' ≤ c ∧ c ≤ 'F' then some (c.toNat - 55)
  else none

def ofDigitValues (digits : List Nat) : Nat := digits.foldl (fun n d => 10 * n + d) 0

def ofAsciiDigits (digits : Text) : Nat := ofDigitValues (digits.map fun c => c.toNat - 48)

-- Numbers of more digits are not read.
def digitLimit : Nat := 4300

def tooLongMessage (digits : Nat) : Text :=
  "Exceeds the limit (" ++ ofNat digitLimit ++
    " digits) for integer string conversion: value has " ++ ofNat digits ++
    " digits; use sys.set_int_max_str_digits() to increase the limit"

-- What a text says that should be a whole number.
inductive Numeral
  | number (n : Int)
  | tooLong (digits : Nat)
  | unreadable
  deriving DecidableEq, Repr

def signed (negative : Bool) (n : Nat) : Int := if negative then -(n : Int) else n

-- Whether a minus sign stands in front, and what follows the sign if there is one.
def takeSign : Text → Bool × Text
  | '-' :: rest => (true, rest)
  | '+' :: rest => (false, rest)
  | rest => (false, rest)

-- Single underscores, with a digit on either side.
def isWellGrouped (run : Text) : Bool :=
  run.head? ≠ some '_' && run.getLast? ≠ some '_' && !holds run "__"

-- Space around it, one sign, digits of any script, underscores between.  Too many digits are
-- noticed before whatever follows them.
def numeral (text : Text) : Numeral :=
  let (negative, body) := takeSign (trimWhile isPadding text)
  let run := body.takeWhile fun c => isDigit c || c = '_'
  let digits := run.filterMap digitValue?
  if !isWellGrouped run then .unreadable
  else if digitLimit < digits.length then .tooLong digits.length
  else if digits.isEmpty ∨ run.length < body.length then .unreadable
  else .number (signed negative (ofDigitValues digits))

end PatchReview.Text
