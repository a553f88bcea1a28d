import PatchReview.Json.Basic

-- Writing JSON text in two layouts: one line in ASCII, and indented by two spaces with every
-- character written as itself that JSON allows to be.
namespace PatchReview.Json

def shortEscape? (c : Char) : Option Char :=
  if c = '"' then some '"'
  else if c = '\\' then some '\\'
  else if c = '\x08' then some 'b'
  else if c = '\t' then some 't'
  else if c = '\n' then some 'n'
  else if c = '\x0c' then some 'f'
  else if c = '\r' then some 'r'
  else none

def escapeUnit (n : Nat) : Text := "\\u" ++ Text.hex 4 n

-- Control characters are escaped, all others stand for themselves.
def plainChar (c : Char) : Text :=
  match shortEscape? c with
  | some x => ['\\', x]
  | none => if c.toNat < 32 then escapeUnit c.toNat else [c]

-- Whatever is not visible ASCII is escaped, above U+FFFF as two surrogates.
def asciiChar (c : Char) : Text :=
  match shortEscape? c with
  | some x => ['\\', x]
  | none =>
    if 32 ≤ c.toNat ∧ c.toNat < 127 then [c]
    else if c.toNat < 0x10000 then escapeUnit c.toNat
    else
      let n := c.toNat - 0x10000
      escapeUnit (0xd800 + n / 0x400) ++ escapeUnit (0xdc00 + n % 0x400)

def writeText (char : Char → Text) (t : Text) : Text := '"' :: t.flatMap char ++ ['"']

-- Half a pair of surrogates is always escaped.
def writePoint (char : Char → Text) : Text.CodePoint → Text
  | .char c => char c
  | .surrogate n => escapeUnit n

def writePoints (char : Char → Text) (points : List Text.CodePoint) : Text :=
  '"' :: points.flatMap (writePoint char) ++ ['"']

def writeReal : Binary64 → Text
  | .undefined => "NaN"
  | .infinite negative => if negative then "-Infinity" else "Infinity"
  | .finite negative mantissa exponent =>
    (if negative then "-" else "") ++ Binary64.magnitude mantissa exponent

def writeBool (b : Bool) : Text := if b then "true" else "false"

mutual

def compact : Json → Text
  | null => "null"
  | bool b => writeBool b
  | int n => Text.ofInt n
  | real x => writeReal x
  | string t => writeText asciiChar t
  | illFormed points => writePoints asciiChar points
  | array [] => "[]"
  | array (item :: items) => "[" ++ compact item ++ compactItems items ++ "]"
  | object [] => "\x7b\x7d"
  | object ((name, value) :: fields) =>
    "\x7b" ++ writeText asciiChar name ++ ": " ++ compact value ++ compactFields fields ++ "\x7d"

def compactItems : List Json → Text
  | [] => []
  | item :: items => ", " ++ compact item ++ compactItems items

def compactFields : List (Text × Json) → Text
  | [] => []
  | (name, value) :: fields =>
    ", " ++ writeText asciiChar name ++ ": " ++ compact value ++ compactFields fields

end

def newline (depth : Nat) : Text := '\n' :: List.replicate (2 * depth) ' '

mutual

-- `depth` counts the open brackets around the value.
def indented (depth : Nat) : Json → Text
  | null => "null"
  | bool b => writeBool b
  | int n => Text.ofInt n
  | real x => writeReal x
  | string t => writeText plainChar t
  | illFormed points => writePoints plainChar points
  | array [] => "[]"
  | array (item :: items) =>
    "[" ++ newline (depth + 1) ++ indented (depth + 1) item ++ indentedItems (depth + 1) items ++
      newline depth ++ "]"
  | object [] => "\x7b\x7d"
  | object ((name, value) :: fields) =>
    "\x7b" ++ newline (depth + 1) ++ writeText plainChar name ++ ": " ++
      indented (depth + 1) value ++ indentedFields (depth + 1) fields ++ newline depth ++ "\x7d"

def indentedItems (depth : Nat) : List Json → Text
  | [] => []
  | item :: items => "," ++ newline depth ++ indented depth item ++ indentedItems depth items

def indentedFields (depth : Nat) : List (Text × Json) → Text
  | [] => []
  | (name, value) :: fields =>
    "," ++ newline depth ++ writeText plainChar name ++ ": " ++ indented depth value ++
      indentedFields depth fields

end

def pretty (value : Json) : Text := indented 0 value

end PatchReview.Json
