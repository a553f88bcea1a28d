import PatchReview.Text.Numeral

-- Strict UTF-8.  Decoding stops at the first ill-formed sequence and says where and why: the
-- reported span is the longest start of a sequence that could still have become a character.
namespace PatchReview.Text

abbrev Bytes := List UInt8

inductive Utf8Fault
  | badStart
  | badContinuation
  | endsEarly
  deriving DecidableEq, Repr

structure Utf8Error where
  fault : Utf8Fault
  start : Nat
  span : Bytes
  deriving DecidableEq, Repr

def Utf8Fault.message : Utf8Fault → Text
  | .badStart => "invalid start byte"
  | .badContinuation => "invalid continuation byte"
  | .endsEarly => "unexpected end of data"

def Utf8Error.message (e : Utf8Error) : Text :=
  match e.span with
  | [b] =>
    "'utf-8' codec can't decode byte 0x" ++ hex 2 b.toNat ++ " in position " ++ ofNat e.start ++
      ": " ++ e.fault.message
  | _ =>
    "'utf-8' codec can't decode bytes in position " ++ ofNat e.start ++ "-" ++
      ofNat (e.start + e.span.length - 1) ++ ": " ++ e.fault.message

-- Bounds of the second byte after a given first byte; they exclude overlong forms, surrogates and
-- what lies past U+10FFFF.
def secondBounds (first : UInt8) : UInt8 × UInt8 :=
  if first = 0xe0 then (0xa0, 0xbf)
  else if first = 0xed then (0x80, 0x9f)
  else if first = 0xf0 then (0x90, 0xbf)
  else if first = 0xf4 then (0x80, 0x8f)
  else (0x80, 0xbf)

-- How many bytes must follow a first byte; none for a byte that starts no sequence.
def followers? (first : UInt8) : Option Nat :=
  if first < 0x80 then some 0
  else if first < 0xc2 then none
  else if first < 0xe0 then some 1
  else if first < 0xf0 then some 2
  else if first < 0xf5 then some 3
  else none

-- The first bytes of `rest` that continue the sequence, at most `count`.
def continuation (count : Nat) (bounds : UInt8 × UInt8) : Bytes → Bytes
  | [] => []
  | b :: rest =>
    match count with
    | 0 => []
    | count + 1 =>
      if bounds.1 ≤ b ∧ b ≤ bounds.2 then b :: continuation count (0x80, 0xbf) rest else []

def sequenceValue (first : UInt8) (more : Bytes) : Nat :=
  let lead :=
    match more.length with
    | 0 => first.toNat
    | 1 => first.toNat % 32
    | 2 => first.toNat % 16
    | _ => first.toNat % 8
  more.foldl (fun n b => 64 * n + b.toNat % 64) lead

def decodeFrom : (fuel start : Nat) → Bytes → Except Utf8Error Text
  | 0, _, _ => .ok []
  | _ + 1, _, [] => .ok []
  | fuel + 1, start, first :: rest =>
    match followers? first with
    | none => .error ⟨.badStart, start, [first]⟩
    | some count =>
      let more := continuation count (secondBounds first) rest
      if more.length = count then
        (decodeFrom fuel (start + count + 1) (rest.drop count)).map
          (Char.ofNat (sequenceValue first more) :: ·)
      else if more.length = rest.length then .error ⟨.endsEarly, start, first :: more⟩
      else .error ⟨.badContinuation, start, first :: more⟩

-- Every step consumes a byte, so the number of bytes bounds the steps.
def decodeUtf8 (bytes : Bytes) : Except Utf8Error Text := decodeFrom bytes.length 0 bytes

def encodeUtf8 (text : Text) : Bytes := (String.ofList text).toUTF8.toList

end PatchReview.Text
