import PatchReview.Json.Reader

-- Reading a JSON document strictly: surrogates come in pairs, arrays and objects nest to a limit,
-- and whatever is wrong has a name and a place of its own.
namespace PatchReview.Json.Document

open Text (CodePoint)

inductive Fault
  | endOfValue
  | endOfText
  | endWithin (within : Container)
  | noValue
  | noLiteral
  | noColon
  | noComma (within : Container)
  | nameNotText
  | trailingComma
  | trailingCharacters
  | badNumber
  | numberTooLong
  | badEscape
  | loneSurrogate
  | unfinishedPair
  | controlCharacter
  | tooDeep
  deriving DecidableEq, Repr

def Fault.message : Fault → Text
  | .endOfValue => "EOF while parsing a value"
  | .endOfText => "EOF while parsing a string"
  | .endWithin .array => "EOF while parsing a list"
  | .endWithin .object => "EOF while parsing an object"
  | .noValue => "expected value"
  | .noLiteral => "expected ident"
  | .noColon => "expected \x60:\x60"
  | .noComma .array => "expected \x60,\x60 or \x60]\x60"
  | .noComma .object => "expected \x60,\x60 or \x60\x7d\x60"
  | .nameNotText => "key must be a string"
  | .trailingComma => "trailing comma"
  | .trailingCharacters => "trailing characters"
  | .badNumber => "invalid number"
  | .numberTooLong => "number out of range"
  | .badEscape => "invalid escape"
  | .loneSurrogate => "lone leading surrogate in hex escape"
  | .unfinishedPair => "unexpected end of hex escape"
  | .controlCharacter => "control character (\\u0000-\\u001F) found while parsing a string"
  | .tooDeep => "recursion limit exceeded"

-- What is wrong with a document, and how many of its characters were left there.
structure Flaw where
  fault : Fault
  remaining : Nat
  deriving DecidableEq, Repr

namespace Flaw

-- Columns count bytes from one.  A line feed stands in column zero of the line that it opens, and
-- the end of the document in the column of what comes before it.
def place (document : Text) (flaw : Flaw) : Text :=
  let (passed, rest) := List.splitAt (document.length - flaw.remaining) document
  let line := passed.count '\n' + 1
  let column := Text.byteLength (passed.reverse.takeWhile (· ≠ '\n'))
  let (line, column) :=
    match rest with
    | [] => (line, column)
    | '\n' :: _ => (line + 1, 0)
    | _ => (line, column + 1)
  "line " ++ Text.ofNat line ++ " column " ++ Text.ofNat column

def message (document : Text) (flaw : Flaw) : Text :=
  flaw.fault.message ++ " at " ++ flaw.place document

end Flaw

abbrev Reading (α : Type) := Except Flaw (α × Text)

def failAt {α : Type} (fault : Fault) (rest : Text) : Except Flaw α := .error ⟨fault, rest.length⟩

-- The rest of a name that stands for a value.
def readLiteral (value : Json) : (name : Text) → Text → Reading Json
  | [], rest => .ok (value, rest)
  | _ :: _, [] => failAt .endOfValue []
  | n :: name, c :: rest =>
    if n = c then readLiteral value name rest else failAt .noLiteral (c :: rest)

def someDigits (text : Text) : Reading Text :=
  match digitRun text with
  | ([], []) => failAt .endOfValue []
  | ([], rest) => failAt .badNumber rest
  | found => .ok found

def readFraction : Text → Reading (Option Text)
  | '.' :: rest => (someDigits rest).map fun (digits, rest) => (some digits, rest)
  | rest => .ok (none, rest)

def readExponent : Text → Reading (Option Int)
  | [] => .ok (none, [])
  | e :: rest =>
    if e = 'e' ∨ e = 'E' then
      let (negative, rest) := Text.takeSign rest
      (someDigits rest).map fun (digits, rest) =>
        (some (Text.signed negative (Text.ofAsciiDigits digits)), rest)
    else .ok (none, e :: rest)

-- A number after its sign.  Too many digits are noticed one place past the first that is too many.
-- A minus sign counts as a digit in some releases of the reader, and in others it does not.
def readNumber (signCounts negative : Bool) (text : Text) : Except Flaw (Json × Text) := do
  let room := Text.digitLimit - (signCounts && negative).toNat
  let (whole, rest) ← someDigits text
  if whole.head? = some '0' ∧ 1 < whole.length then failAt .badNumber (text.drop 1)
  else if room < whole.length then failAt .numberTooLong (text.drop (room + 1))
  else
    let (fraction, rest) ← readFraction rest
    let (exponent, rest) ← readExponent rest
    return (numberValue negative whole fraction exponent, rest)

-- Four digits of an escape; the document ends in them if fewer than four bytes are left.
def readUnit (text : Text) : Reading Nat :=
  match hex4? text with
  | some found => .ok found
  | none =>
    if Text.byteLength (text.take 4) < 4 then failAt .endOfText []
    else failAt .badEscape (text.dropWhile fun c => (Text.hexValue? c).isSome)

-- A surrogate that may not stand here is found at its last digit.
def loneBefore {α : Type} (rest : Text) : Except Flaw α := .error ⟨.loneSurrogate, rest.length + 1⟩

def readLowHalf (high : Nat) : Text → Reading Char
  | [] | ['\\'] => failAt .endOfText []
  | '\\' :: 'u' :: rest =>
    match readUnit rest with
    | .error e => .error e
    | .ok (low, rest) =>
      if CodePoint.isLowSurrogate low then .ok (CodePoint.paired high low, rest)
      else loneBefore rest
  | '\\' :: rest => failAt .unfinishedPair rest
  | rest => failAt .unfinishedPair rest

def readCodePoint (text : Text) : Reading Char :=
  match readUnit text with
  | .error e => .error e
  | .ok (n, rest) =>
    if CodePoint.isLowSurrogate n then loneBefore rest
    else if CodePoint.isHighSurrogate n then readLowHalf n rest
    else .ok (Char.ofNat n, rest)

-- One character of a text; `none` at the closing quote.
def textStep : Text → Reading (Option Char)
  | [] | ['\\'] => failAt .endOfText []
  | '"' :: rest => .ok (none, rest)
  | '\\' :: 'u' :: rest => (readCodePoint rest).map fun (c, rest) => (some c, rest)
  | '\\' :: c :: rest =>
    match simpleEscape? c with
    | some x => .ok (some x, rest)
    | none => failAt .badEscape (c :: rest)
  | c :: rest =>
    if c.toNat < 32 then failAt .controlCharacter (c :: rest) else .ok (some c, rest)

-- A text after its opening quote.
def readText (rest : Text) : Reading Text := readPieces textStep ('"' :: rest) rest

def readScalar (signCounts : Bool) : Text → Reading Json
  | [] => failAt .endOfValue []
  | '-' :: 'I' :: rest => readLiteral (.real (.infinite true)) "Infinity" ('I' :: rest)
  | '-' :: rest => readNumber signCounts true rest
  | c :: rest =>
    if Text.isAsciiDigit c then readNumber signCounts false (c :: rest)
    else
      match literals.find? fun literal => literal.1.head? = some c with
      | some (name, value) => readLiteral value name (c :: rest)
      | none => failAt .noValue (c :: rest)

-- Arrays and objects that hold something stand inside so many others at most.
def levelLimit : Nat := 200

section
variable (signCounts : Bool)

mutual

-- `room` is how many arrays and objects may still be around what is read.
def readValue : (fuel room : Nat) → Text → Reading Json
  | 0, _, text => failAt .noValue text
  | fuel + 1, room, text =>
    match text with
    | '"' :: rest => (readText rest).map fun (t, rest) => (.string t, rest)
    | '[' :: rest =>
      match skipSpace rest with
      | [] => failAt (.endWithin .array) []
      | ']' :: rest => .ok (.array [], rest)
      | rest => (readItems fuel room rest).map fun (items, rest) => (.array items, rest)
    | '{' :: rest =>
      match skipSpace rest with
      | [] => failAt (.endWithin .object) []
      | '}' :: rest => .ok (.object [], rest)
      | rest => (readFields fuel room [] rest).map fun (fields, rest) => (.object fields, rest)
    | text => readScalar signCounts text

-- Items from the first one on, through the closing bracket.
def readItems : (fuel room : Nat) → Text → Reading (List Json)
  | 0, _, text => failAt .noValue text
  | _ + 1, 0, text => failAt .tooDeep text
  | fuel + 1, room + 1, text =>
    match readValue fuel room text with
    | .error e => .error e
    | .ok (item, rest) =>
      match skipSpace rest with
      | [] => failAt (.endWithin .array) []
      | ']' :: rest => .ok ([item], rest)
      | ',' :: rest =>
        match skipSpace rest with
        | ']' :: rest => failAt .trailingComma (']' :: rest)
        | rest =>
          (readItems fuel (room + 1) rest).map fun (items, rest) => (item :: items, rest)
      | rest => failAt (.noComma .array) rest

-- Fields from the next name on, through the closing brace, added to those already read.
def readFields : (fuel room : Nat) → List (Text × Json) → Text → Reading (List (Text × Json))
  | 0, _, _, text => failAt .nameNotText text
  | fuel + 1, room, done, text =>
    match text with
    | '"' :: rest =>
      match readText rest with
      | .error e => .error e
      | .ok (name, rest) =>
        match skipSpace rest with
        | [] => failAt (.endWithin .object) []
        | ':' :: rest =>
          match skipSpace rest, room with
          | [], _ => failAt .endOfValue []
          | rest, 0 => failAt .tooDeep rest
          | rest, inner + 1 =>
            match readValue fuel inner rest with
            | .error e => .error e
            | .ok (value, rest) =>
              match skipSpace rest with
              | [] => failAt (.endWithin .object) []
              | '}' :: rest => .ok (put name value done, rest)
              | ',' :: rest =>
                match skipSpace rest with
                | [] => failAt .endOfValue []
                | '}' :: rest => failAt .trailingComma ('}' :: rest)
                | rest => readFields fuel room (put name value done) rest
              | rest => failAt (.noComma .object) rest
        | rest => failAt .noColon rest
    | rest => failAt .nameNotText rest

end

end

-- Every call consumes a character or goes from a list to its first item.
def read (document : Text) (signCounts : Bool := false) : Except Flaw Json :=
  match readValue signCounts (2 * document.length + 2) levelLimit (skipSpace document) with
  | .error e => .error e
  | .ok (value, rest) =>
    match skipSpace rest with
    | [] => .ok value
    | rest => failAt .trailingCharacters rest

end PatchReview.Json.Document
