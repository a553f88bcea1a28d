import PatchReview.Text.Spelled
import PatchReview.Validation.Basic

-- Whole numbers as a record may hold them: a number without a fraction, a truth value, or a text
-- that spells a number.
namespace PatchReview.Validation

def largestExact : Int := Nat.pow 2 63

def whole : Decoder Int := fun path input =>
  match input with
  | .int n => .valid n
  | .bool b => .valid (if b then 1 else 0)
  | .string t =>
    match Text.spelledNumeral t with
    | .number n => .valid n
    | .tooLong _ => fault .tooLarge path input
    | .unreadable => fault .unreadableWhole path input
  | .real (.finite negative mantissa exponent) =>
    match Binary64.whole mantissa exponent with
    | (_, false) => fault .hasFraction path input
    | (n, true) =>
      if largestExact ≤ (n : Int) then fault .tooLarge path input
      else .valid (Text.signed negative n)
  | .real _ => fault .notFinite path input
  | .illFormed _ => fault .notUnicode path input
  | _ => fault .notWhole path input

end PatchReview.Validation
