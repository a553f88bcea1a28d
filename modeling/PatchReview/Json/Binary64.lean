import PatchReview.Text.Numeral

-- Binary floating-point numbers of 64 bits, held exactly.  A decimal is read as the nearest one, a
-- tie going to the even mantissa, and written with the fewest digits that read back.
namespace PatchReview

-- A finite number is `mantissa * 2 ^ exponent`, with `mantissa < 2 ^ 53` and `-1074 ≤ exponent`.
inductive Binary64 where
  | undefined
  | infinite (negative : Bool)
  | finite (negative : Bool) (mantissa : Nat) (exponent : Int)
  deriving DecidableEq, Repr

namespace Binary64

-- The nearest whole number to `num / den`; a tie goes to the even one.
def roundDiv (num den : Nat) : Nat :=
  let low := num / den
  let twice := 2 * (num % den)
  if twice < den then low
  else if twice > den then low + 1
  else low + low % 2

-- `num / den` as a fraction of two numbers scaled by a power of two or ten.
def scaled (base : Nat) (exponent : Int) (num den : Nat) : Nat × Nat :=
  match exponent with
  | .ofNat e => (num * Nat.pow base e, den)
  | .negSucc e => (num, den * Nat.pow base (e + 1))

-- The exponent that leaves 53 bits before the point, but never less than the smallest one.
def exponentFor (num den : Nat) : Int :=
  let guess : Int := (num.log2 : Int) - (den.log2 : Int) - 52
  let (n, d) := scaled 2 (-guess) num den
  max (-1074) (if n / d < Nat.pow 2 52 then guess - 1 else guess)

def ofFraction (negative : Bool) (num den : Nat) : Binary64 :=
  if num = 0 then .finite negative 0 (-1074)
  else
    let exponent := exponentFor num den
    let (n, d) := scaled 2 (-exponent) num den
    let mantissa := roundDiv n d
    let (mantissa, exponent) :=
      if mantissa = Nat.pow 2 53 then (Nat.pow 2 52, exponent + 1) else (mantissa, exponent)
    if exponent > 971 then .infinite negative else .finite negative mantissa exponent

-- The number nearest to `digits * 10 ^ exponent`.
def ofDecimal (negative : Bool) (digits : Nat) (exponent : Int) : Binary64 :=
  let size : Int := (Nat.toDigits 10 digits).length + exponent
  if digits = 0 ∨ size < -330 then .finite negative 0 (-1074)
  else if size > 320 then .infinite negative
  else
    let (n, d) := scaled 10 exponent digits 1
    ofFraction negative n d

-- The whole part, and whether nothing is left of it.
def whole (mantissa : Nat) (exponent : Int) : Nat × Bool :=
  let (n, d) := scaled 2 exponent mantissa 1
  (n / d, n % d == 0)

def isZero : Binary64 → Bool
  | finite _ 0 _ => true
  | _ => false

-- The decimal exponent of the first digit of `num / den`.
def leadingPlace (num den : Nat) : Int :=
  if den ≤ num then (Nat.toDigits 10 (num / den)).length - 1
  else
    let length := (Nat.toDigits 10 (den / num)).length
    if den ≤ num * Nat.pow 10 (length - 1) then -((length : Int) - 1) else -(length : Int)

-- Whether `digits * 10 ^ place` lies among the reals that round to `mantissa * 2 ^ exponent`.
def readsBack (mantissa : Nat) (exponent : Int) (digits : Nat) (place : Int) : Bool :=
  let below :=
    if mantissa = Nat.pow 2 52 ∧ exponent > -1074 then 4 * mantissa - 1 else 4 * mantissa - 2
  let above := 4 * mantissa + 2
  let (n, d) := scaled 10 place digits 1
  let (n, d) := scaled 2 (2 - exponent) n d
  if mantissa % 2 = 0 then below * d ≤ n && n ≤ above * d else below * d < n && n < above * d

-- Of the two decimals of a grid that enclose the value, the nearer one that reads back; of two
-- equally near ones the even one.
def onGrid? (mantissa : Nat) (exponent place : Int) : Option Nat :=
  let (n, d) := scaled 2 exponent mantissa 1
  let (n, d) := scaled 10 (-place) n d
  let low := n / d
  let nearLow := 2 * (n % d) < d || (2 * (n % d) = d && low % 2 = 0)
  let lowBack := readsBack mantissa exponent low place
  let highBack := readsBack mantissa exponent (low + 1) place
  if lowBack ∧ (nearLow ∨ ¬ highBack) then some low
  else if highBack then some (low + 1)
  else none

-- The fewest digits that read back, with the place of the last one.
def shortest (mantissa : Nat) (exponent : Int) : Nat × Int :=
  let (n, d) := scaled 2 exponent mantissa 1
  let first := leadingPlace n d
  let found := (List.range 17).findSome? fun (extra : Nat) =>
    let place := first - extra
    (onGrid? mantissa exponent place).map fun digits => (digits, place)
  found.getD (mantissa, 0)

def dropZeros : (fuel digits : Nat) → Int → Nat × Int
  | 0, digits, place => (digits, place)
  | fuel + 1, digits, place =>
    if digits % 10 = 0 ∧ digits ≠ 0 then dropZeros fuel (digits / 10) (place + 1)
    else (digits, place)

-- Positional from 0.0001 up to, but not with, ten to the sixteenth; otherwise one digit, the rest
-- after a point, and a signed exponent of at least two digits.
def magnitude (mantissa : Nat) (exponent : Int) : Text :=
  if mantissa = 0 then "0.0"
  else
    let (digits, place) := shortest mantissa exponent
    let (digits, place) := dropZeros 20 digits place
    let shown := Text.ofNat digits
    let first : Int := place + shown.length - 1
    if -4 ≤ first ∧ first < 16 then
      if 0 ≤ place then shown ++ List.replicate place.toNat '0' ++ ".0"
      else if 0 ≤ first then
        shown.take (first.toNat + 1) ++ "." ++ shown.drop (first.toNat + 1)
      else "0." ++ List.replicate ((-first).toNat - 1) '0' ++ shown
    else
      let tail := if shown.length = 1 then [] else '.' :: shown.drop 1
      let size := Text.ofNat first.natAbs
      let size := if size.length < 2 then '0' :: size else size
      shown.take 1 ++ tail ++ "e" ++ (if first < 0 then "-" else "+") ++ size

end Binary64
end PatchReview
