import PatchReview.Json.Document
import PatchReview.Json.Writer
import PatchReview.Proofs.Text.Numeral

-- What the writer puts down for a text or a number, the document reader takes up again: every
-- escape gives its character, and a number is read exactly if it is not too long.
namespace PatchReview.Json.Document

-- After a written value comes a comma, a line feed, or nothing.
def EndsValue (rest : Text) : Prop := ∀ c ∈ rest.head?, c = ',' ∨ c = '\n'

theorem endsValue_nil : EndsValue [] := by simp [EndsValue]

theorem endsValue_newline (depth : Nat) (rest : Text) : EndsValue (newline depth ++ rest) := by
  simp [EndsValue, newline]

theorem hexValue?_hexDigit (n : Nat) : Text.hexValue? (Text.hexDigit n) = some (n % 16) := by
  have every : ∀ d < 16, Text.hexValue? d.digitChar = some d := by decide
  exact every (n % 16) (Nat.mod_lt n (by decide))

theorem hex4?_hex (n : Nat) (small : n < 65536) (rest : Text) :
    hex4? (Text.hex 4 n ++ rest) = some (n, rest) := by
  simp only [Text.hex, List.nil_append, List.cons_append, hex4?, hexValue?_hexDigit,
    Option.bind_eq_bind, Option.bind_some]
  have value : ((n / 16 / 16 / 16 % 16 * 16 + n / 16 / 16 % 16) * 16 + n / 16 % 16) * 16 + n % 16 =
      n := by omega
  rw [value]
  rfl

-- The escape of a control character, behind its `\u`.
theorem readCodePoint_hex (c : Char) (control : c.toNat < 32) (rest : Text) :
    readCodePoint (Text.hex 4 c.toNat ++ rest) = .ok (c, rest) := by
  have low : Text.CodePoint.isLowSurrogate c.toNat = false := by
    simp only [Text.CodePoint.isLowSurrogate, Bool.and_eq_false_iff, decide_eq_false_iff_not]
    omega
  have high : Text.CodePoint.isHighSurrogate c.toNat = false := by
    simp only [Text.CodePoint.isHighSurrogate, Bool.and_eq_false_iff, decide_eq_false_iff_not]
    omega
  simp [readCodePoint, readUnit, hex4?_hex c.toNat (by omega), low, high, Char.ofNat_toNat]

theorem textStep_escape {c x : Char} (short : shortEscape? c = some x) (rest : Text) :
    textStep ('\\' :: x :: rest) = .ok (some c, rest) := by
  unfold shortEscape? at short
  split at short
  · subst c; cases Option.some.inj short; rfl
  split at short
  · subst c; cases Option.some.inj short; rfl
  split at short
  · subst c; cases Option.some.inj short; rfl
  split at short
  · subst c; cases Option.some.inj short; rfl
  split at short
  · subst c; cases Option.some.inj short; rfl
  split at short
  · subst c; cases Option.some.inj short; rfl
  split at short
  · subst c; cases Option.some.inj short; rfl
  · cases short

theorem textStep_self {c : Char} (plain : shortEscape? c = none) (visible : ¬ c.toNat < 32)
    (rest : Text) : textStep (c :: rest) = .ok (some c, rest) := by
  have quote : c ≠ '"' := by rintro rfl; simp [shortEscape?] at plain
  have backslash : c ≠ '\\' := by rintro rfl; simp [shortEscape?] at plain
  simp [textStep, backslash, visible]

theorem textStep_plainChar (c : Char) (rest : Text) :
    textStep (plainChar c ++ rest) = .ok (some c, rest) := by
  unfold plainChar
  cases short : shortEscape? c with
  | some x => exact textStep_escape short rest
  | none =>
    dsimp only
    split
    · rename_i control
      have step : textStep (escapeUnit c.toNat ++ rest) =
          (readCodePoint (Text.hex 4 c.toNat ++ rest)).map fun read => (some read.1, read.2) := rfl
      rw [step, readCodePoint_hex c control]
      rfl
    · rename_i visible
      exact textStep_self short visible rest

theorem readPieces_plain (t rest room : Text) (enough : t.length < room.length) :
    readPieces textStep room (t.flatMap plainChar ++ '"' :: rest) = .ok (t, rest) := by
  induction t generalizing room with
  | nil =>
    cases room with
    | nil => simp at enough
    | cons r room => rfl
  | cons c t ih =>
    cases room with
    | nil => simp at enough
    | cons r room =>
      have further := ih room (by simpa using enough)
      simp only [List.flatMap_cons, List.append_assoc, readPieces, textStep_plainChar, further]

theorem length_le_flatMap_plainChar (t : Text) : t.length ≤ (t.flatMap plainChar).length := by
  induction t with
  | nil => simp
  | cons c t ih =>
    have one : 1 ≤ (plainChar c).length := by
      unfold plainChar
      split
      · simp
      · split <;> simp [escapeUnit]
    simp only [List.flatMap_cons, List.length_append, List.length_cons]
    omega

theorem readText_writeText (t rest : Text) :
    readText (t.flatMap plainChar ++ '"' :: rest) = .ok (t, rest) := by
  apply readPieces_plain
  have := length_le_flatMap_plainChar t
  simp only [List.length_cons, List.length_append]
  omega

theorem digitRun_ofNat (n : Nat) {rest : Text} (ends : EndsValue rest) :
    digitRun (Text.ofNat n ++ rest) = (Text.ofNat n, rest) := by
  have inside : ∀ c ∈ Text.ofNat n, Text.isAsciiDigit c = true :=
    fun _ => Text.isAsciiDigit_of_mem_ofNat
  rw [digitRun, List.takeWhile_append_of_pos inside, List.dropWhile_append_of_pos inside]
  cases rest with
  | nil => simp
  | cons c rest =>
    have outside : Text.isAsciiDigit c = false := by
      rcases ends c (by simp) with rfl | rfl <;> decide
    simp [outside]

theorem someDigits_ofNat (n : Nat) {rest : Text} (ends : EndsValue rest) :
    someDigits (Text.ofNat n ++ rest) = .ok (Text.ofNat n, rest) := by
  unfold someDigits
  rw [digitRun_ofNat n ends]
  cases digits : Text.ofNat n with
  | nil => exact absurd digits (Text.ofNat_ne_nil n)
  | cons c more => rfl

theorem readFraction_end {rest : Text} (ends : EndsValue rest) :
    readFraction rest = .ok (none, rest) := by
  cases rest with
  | nil => rfl
  | cons c rest => rcases ends c (by simp) with rfl | rfl <;> rfl

theorem readExponent_end {rest : Text} (ends : EndsValue rest) :
    readExponent rest = .ok (none, rest) := by
  cases rest with
  | nil => rfl
  | cons c rest => rcases ends c (by simp) with rfl | rfl <;> rfl

-- A lone zero apart, no written number begins with zero.
theorem ofNat_leading (n : Nat) :
    ¬ ((Text.ofNat n).head? = some '0' ∧ 1 < (Text.ofNat n).length) := by
  rintro ⟨zero, longer⟩
  cases Text.head_ofNat zero
  exact absurd longer (by decide)

theorem readNumber_ofNat (signCounts negative : Bool) {n : Nat}
    (short : (Text.ofNat n).length ≤ Text.digitLimit - (signCounts && negative).toNat) {rest : Text}
    (ends : EndsValue rest) :
    readNumber signCounts negative (Text.ofNat n ++ rest) =
      .ok (.int (Text.signed negative n), rest) := by
  simp only [readNumber, someDigits_ofNat n ends, bind, Except.bind, if_neg (ofNat_leading n),
    if_neg (Nat.not_lt.mpr short), readFraction_end ends, readExponent_end ends, numberValue,
    Text.ofAsciiDigits_ofNat]
  rfl

theorem readNumber_long (signCounts negative : Bool) {n : Nat}
    (long : Text.digitLimit - (signCounts && negative).toNat < (Text.ofNat n).length) {rest : Text}
    (ends : EndsValue rest) :
    ∃ flaw, readNumber signCounts negative (Text.ofNat n ++ rest) = .error flaw := by
  refine ⟨⟨.numberTooLong, ((Text.ofNat n ++ rest).drop
    (Text.digitLimit - (signCounts && negative).toNat + 1)).length⟩, ?_⟩
  simp only [readNumber, someDigits_ofNat n ends, bind, Except.bind, if_neg (ofNat_leading n),
    if_pos long]
  rfl

end PatchReview.Json.Document
