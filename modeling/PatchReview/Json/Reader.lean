import PatchReview.Json.Basic

-- Reading JSON text.  A fault carries the number of characters that were left where it was found,
-- so that its place follows from the length of the text.
namespace PatchReview.Json

open Text (CodePoint)

inductive ReadFault
  | byteOrderMark
  | expectingValue
  | expectingName
  | expectingColon
  | expectingComma
  | extraData
  | unterminatedText
  | controlCharacter
  | badEscape
  | badCodePoint
  deriving DecidableEq, Repr

def ReadFault.message : ReadFault → Text
  | .byteOrderMark => "Unexpected UTF-8 BOM (decode using utf-8-sig)"
  | .expectingValue => "Expecting value"
  | .expectingName => "Expecting property name enclosed in double quotes"
  | .expectingColon => "Expecting ':' delimiter"
  | .expectingComma => "Expecting ',' delimiter"
  | .extraData => "Extra data"
  | .unterminatedText => "Unterminated string starting at"
  | .controlCharacter => "Invalid control character at"
  | .badEscape => "Invalid \\escape"
  | .badCodePoint => "Invalid \\uXXXX escape"

-- What is wrong with a text, and how much of it was left there.
structure ReadFlaw where
  fault : ReadFault
  remaining : Nat
  deriving DecidableEq, Repr

namespace ReadFlaw

-- Lines and columns count from one, characters from zero.
def place (document : Text) (flaw : ReadFlaw) : Text :=
  let passed := document.take (document.length - flaw.remaining)
  "line " ++ Text.ofNat (passed.count '\n' + 1) ++ " column " ++
    Text.ofNat ((passed.reverse.takeWhile (· ≠ '\n')).length + 1)

def message (document : Text) (flaw : ReadFlaw) : Text :=
  flaw.fault.message ++ ": " ++ flaw.place document ++ " (char " ++
    Text.ofNat (document.length - flaw.remaining) ++ ")"

end ReadFlaw

inductive Container
  | array
  | object
  deriving DecidableEq, Repr

def Container.name : Container → Text
  | .array => "array"
  | .object => "object"

-- Reading stops at a flaw, or where a limit is passed.
inductive ReadError
  | flawed (flaw : ReadFlaw)
  | numberTooLong (digits : Nat)
  | tooDeep (within : Container)
  deriving DecidableEq, Repr

def tooDeepMessage (within : Container) : Text :=
  "maximum recursion depth exceeded while decoding a JSON " ++ within.name ++
    " from a unicode string"

def ReadError.message (document : Text) : ReadError → Text
  | .flawed flaw => flaw.message document
  | .numberTooLong digits => Text.tooLongMessage digits
  | .tooDeep within => tooDeepMessage within

abbrev Reading (α : Type) := Except ReadError (α × Text)

def failAt {α : Type} (fault : ReadFault) (rest : Text) : Except ReadError α :=
  .error (.flawed ⟨fault, rest.length⟩)

def isSpace (c : Char) : Bool := c = ' ' || c = '\t' || c = '\n' || c = '\r'

def skipSpace (text : Text) : Text := text.dropWhile isSpace

def hex4? : Text → Option (Nat × Text)
  | a :: b :: c :: d :: rest => do
    let a ← Text.hexValue? a
    let b ← Text.hexValue? b
    let c ← Text.hexValue? c
    let d ← Text.hexValue? d
    return (((a * 16 + b) * 16 + c) * 16 + d, rest)
  | _ => none

def simpleEscape? : Char → Option Char
  | '"' => some '"'
  | '\\' => some '\\'
  | '/' => some '/'
  | 'b' => some '\x08'
  | 'f' => some '\x0c'
  | 'n' => some '\n'
  | 'r' => some '\r'
  | 't' => some '\t'
  | _ => none

-- The second half of a pair of surrogates, if it follows at once and does not end the text.
def lowHalf? : Text → Option (Nat × Text)
  | '\\' :: 'u' :: rest =>
    (hex4? rest).filter fun (n, after) => CodePoint.isLowSurrogate n && !after.isEmpty
  | _ => none

-- One code point of a text, or `none` at its closing quote; `opened` begins with its opening quote.
def textStep (opened : Text) (text : Text) : Reading (Option CodePoint) :=
  match text with
  | [] => failAt .unterminatedText opened
  | '"' :: rest => .ok (none, rest)
  | ['\\'] => failAt .unterminatedText opened
  | '\\' :: 'u' :: rest =>
    match hex4? rest with
    | none => failAt .badCodePoint ('u' :: rest)
    | some (_, []) => failAt .badCodePoint ('u' :: rest)
    | some (n, after) =>
      if CodePoint.isHighSurrogate n then
        match lowHalf? after with
        | some (low, after) => .ok (some (.char (CodePoint.paired n low)), after)
        | none => .ok (some (.ofNat n), after)
      else .ok (some (.ofNat n), after)
  | '\\' :: c :: rest =>
    match simpleEscape? c with
    | some x => .ok (some (.char x), rest)
    | none => failAt .badEscape ('\\' :: c :: rest)
  | c :: rest =>
    if c.toNat < 32 then failAt .controlCharacter (c :: rest) else .ok (some (.char c), rest)

-- What a text is made of, up to its end, which `step` finds.  Every step takes a character or
-- fails, so a `room` longer than what is left is enough.
def readPieces {ε α : Type} (step : Text → Except ε (Option α × Text)) :
    (room : Text) → Text → Except ε (List α × Text)
  | [], text => .ok ([], text)
  | _ :: room, text =>
    match step text with
    | .error e => .error e
    | .ok (none, rest) => .ok ([], rest)
    | .ok (some piece, rest) =>
      match readPieces step room rest with
      | .error e => .error e
      | .ok (pieces, rest) => .ok (piece :: pieces, rest)

-- A text after its opening quote.
def readText (rest : Text) : Reading (List CodePoint) :=
  readPieces (textStep ('"' :: rest)) ('"' :: rest) rest

def digitRun (text : Text) : Text × Text :=
  (text.takeWhile Text.isAsciiDigit, text.dropWhile Text.isAsciiDigit)

-- The digits before the point: a lone zero, or a run that does not begin with zero.
def wholeDigits? : Text → Option (Text × Text)
  | '0' :: rest => some (['0'], rest)
  | text =>
    match digitRun text with
    | ([], _) => none
    | (digits, rest) => some (digits, rest)

def fractionDigits? : Text → Option (Text × Text)
  | '.' :: rest =>
    match digitRun rest with
    | ([], _) => none
    | (digits, rest) => some (digits, rest)
  | _ => none

def exponentDigits? : Text → Option (Int × Text)
  | e :: rest =>
    if e = 'e' ∨ e = 'E' then
      let (negative, rest) := Text.takeSign rest
      match digitRun rest with
      | ([], _) => none
      | (digits, rest) => some (Text.signed negative (Text.ofAsciiDigits digits), rest)
    else none
  | [] => none

-- The value of a number; without a point and an exponent it is a whole one.
def numberValue (negative : Bool) (whole : Text) (fraction : Option Text) (exponent : Option Int) :
    Json :=
  match fraction, exponent with
  | none, none => .int (Text.signed negative (Text.ofAsciiDigits whole))
  | _, _ =>
    let places := fraction.getD []
    .real (.ofDecimal negative (Text.ofAsciiDigits (whole ++ places))
      (exponent.getD 0 - places.length))

-- A number, longest form first; a point or an exponent that is not followed by digits is left.
def number? (negative : Bool) (text : Text) : Option (Reading Json) :=
  (wholeDigits? text).map fun (whole, rest) =>
    let fraction := fractionDigits? rest
    let rest := (fraction.map (·.2)).getD rest
    let exponent := exponentDigits? rest
    let rest := (exponent.map (·.2)).getD rest
    if fraction.isNone ∧ exponent.isNone ∧ Text.digitLimit < whole.length then
      .error (.numberTooLong whole.length)
    else .ok (numberValue negative whole (fraction.map (·.1)) (exponent.map (·.1)), rest)

def literals : List (Text × Json) :=
  [("null", .null), ("true", .bool true), ("false", .bool false), ("NaN", .real .undefined),
   ("Infinity", .real (.infinite false)), ("-Infinity", .real (.infinite true))]

def literal? (text : Text) : Option (Json × Text) :=
  literals.findSome? fun (name, value) => (Text.after? name text).map fun rest => (value, rest)

def scalar (text : Text) : Reading Json :=
  match literal? text with
  | some found => .ok found
  | none =>
    let number :=
      match text with
      | '-' :: rest => number? true rest
      | rest => number? false rest
    number.getD (failAt .expectingValue text)

-- How many arrays and objects may stand inside each other is what the calls under way leave of the
-- limit on calls; this much is left where the program reads a document.
def usualLevels : Nat := 985

mutual

-- `room` is how many more levels may be opened.
def readValue : (fuel room : Nat) → Text → Reading Json
  | 0, _, text => failAt .expectingValue text
  | fuel + 1, room, text =>
    match text, room with
    | '"' :: rest, _ =>
      match readText rest with
      | .error e => .error e
      | .ok (points, rest) => .ok (.ofCodePoints points, rest)
    | '[' :: _, 0 => .error (.tooDeep .array)
    | '[' :: rest, room + 1 =>
      match skipSpace rest with
      | ']' :: rest => .ok (.array [], rest)
      | rest =>
        match readItems fuel room rest with
        | .error e => .error e
        | .ok (items, rest) => .ok (.array items, rest)
    | '{' :: _, 0 => .error (.tooDeep .object)
    | '{' :: rest, room + 1 =>
      match skipSpace rest with
      | '}' :: rest => .ok (.object [], rest)
      | rest =>
        match readFields fuel room [] rest with
        | .error e => .error e
        | .ok (fields, rest) => .ok (.object fields, rest)
    | text, _ => scalar text

-- Items from the first one on, through the closing bracket.
def readItems : (fuel room : Nat) → Text → Reading (List Json)
  | 0, _, text => failAt .expectingValue text
  | fuel + 1, room, text =>
    match readValue fuel room text with
    | .error e => .error e
    | .ok (item, rest) =>
      match skipSpace rest with
      | ']' :: rest => .ok ([item], rest)
      | ',' :: rest =>
        match readItems fuel room (skipSpace rest) with
        | .error e => .error e
        | .ok (items, rest) => .ok (item :: items, rest)
      | rest => failAt .expectingComma rest

-- Fields from the next name on, through the closing brace, added to those already read.
def readFields : (fuel room : Nat) → List (Text × Json) → Text → Reading (List (Text × Json))
  | 0, _, _, text => failAt .expectingName text
  | fuel + 1, room, done, text =>
    match text with
    | '"' :: rest =>
      match readText rest with
      | .error e => .error e
      | .ok (name, rest) =>
        match skipSpace rest with
        | ':' :: rest =>
          match readValue fuel room (skipSpace rest) with
          | .error e => .error e
          | .ok (value, rest) =>
            match skipSpace rest with
            | '}' :: rest => .ok (put (Text.ofCodePoints name) value done, rest)
            | ',' :: rest =>
              readFields fuel room (put (Text.ofCodePoints name) value done) (skipSpace rest)
            | rest => failAt .expectingComma rest
        | rest => failAt .expectingColon rest
    | rest => failAt .expectingName rest

end

-- Every call consumes a character or goes from a list to its first item, so twice the length is
-- more than enough.
def read (document : Text) (levels : Nat := usualLevels) : Except ReadError Json :=
  match document with
  | '\ufeff' :: _ => failAt .byteOrderMark document
  | _ =>
    match readValue (2 * document.length + 2) levels (skipSpace document) with
    | .error e => .error e
    | .ok (value, rest) =>
      match skipSpace rest with
      | [] => .ok value
      | rest => failAt .extraData rest

end PatchReview.Json
