import Mathlib.Algebra.Ring.Nat
import PatchReview.Text.Numeral

-- Whole numbers written in decimal: the digits are those of ASCII, they say the number, only zero
-- begins with zero, and how many there are follows from the size of the number.
namespace PatchReview.Text

theorem isAsciiDigit_iff {c : Char} : isAsciiDigit c = true ↔ c.isDigit = true := by
  simp [isAsciiDigit, Char.isDigit, Char.le_def]

theorem isAsciiDigit_bounds {c : Char} (digit : isAsciiDigit c = true) :
    48 ≤ c.toNat ∧ c.toNat ≤ 57 := by
  simpa [isAsciiDigit, Char.le_def, UInt32.le_iff_toNat_le] using digit

theorem isAsciiDigit_of_mem_ofNat {n : Nat} {c : Char} (member : c ∈ ofNat n) :
    isAsciiDigit c = true :=
  isAsciiDigit_iff.mpr (Nat.isDigit_of_mem_toDigits (by decide) (by decide) member)

theorem not_mem_ofNat {c : Char} (other : isAsciiDigit c = false) (n : Nat) : c ∉ ofNat n := by
  intro member
  have digit := isAsciiDigit_of_mem_ofNat member
  rw [other] at digit
  cases digit

theorem newline_ofNat (n : Nat) : '\n' ∉ ofNat n := not_mem_ofNat rfl n

theorem not_mem_ofInt {c : Char} (other : isAsciiDigit c = false) (sign : c ≠ '-') (n : Int) :
    c ∉ ofInt n := by
  cases n with
  | ofNat n => exact not_mem_ofNat other n
  | negSucc n => exact List.not_mem_cons_of_ne_of_not_mem sign (not_mem_ofNat other (n + 1))

theorem ofNat_ne_nil (n : Nat) : ofNat n ≠ [] := Nat.toDigits_ne_nil

theorem ofDigitValues_map (digits : Text) (start : Nat) :
    (digits.map fun c => c.toNat - 48).foldl (fun n d => 10 * n + d) start =
      Nat.ofDigitChars 10 digits start := by
  rw [Nat.ofDigitChars_eq_foldl, List.foldl_map]
  rfl

theorem ofAsciiDigits_ofNat (n : Nat) : ofAsciiDigits (ofNat n) = n := by
  rw [ofAsciiDigits, ofDigitValues, ofDigitValues_map]
  exact Nat.ofDigitChars_ten_toDigits

-- No number but zero begins with zero.
theorem head_ofNat {n : Nat} (zero : (ofNat n).head? = some '0') : n = 0 := by
  induction n using Nat.strongRecOn with
  | ind n ih =>
    by_cases single : n < 10
    · rw [ofNat, Nat.toDigits_of_lt_base single] at zero
      have code : n.digitChar.toNat = 48 := by
        have same : n.digitChar = '0' := by simpa using zero
        rw [same]
        rfl
      have := Nat.toNat_digitChar_of_lt_ten single
      omega
    · have split : ofNat n = ofNat (n / 10) ++ [(n % 10).digitChar] :=
        Nat.toDigits_of_base_le (by decide) (by omega)
      cases lead : ofNat (n / 10) with
      | nil => exact absurd lead (ofNat_ne_nil _)
      | cons c rest =>
        have := ih (n / 10) (by omega) (by simpa [split, lead] using zero)
        omega

theorem length_ofNat_le_iff {n limit : Nat} (positive : 0 < limit) :
    (ofNat n).length ≤ limit ↔ n < 10 ^ limit :=
  Nat.length_toDigits_le_iff (by decide) positive

end PatchReview.Text
