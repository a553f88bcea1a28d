import PatchReview.Text.Numeral

-- Hunks: a header with two ranges, and lines that are kept, added or removed.
namespace PatchReview.Diff

inductive LineKind
  | context
  | added
  | removed
  -- A remark about the line before it, such as a missing final line feed.
  | remark
  -- An empty line between hunks, which belongs to neither side.
  | gap
  deriving DecidableEq, Repr

def LineKind.mark : LineKind → Text
  | .context => " "
  | .added => "+"
  | .removed => "-"
  | .remark => "\\"
  | .gap => ""

def LineKind.inSource : LineKind → Nat
  | .context | .removed => 1
  | .added | .remark | .gap => 0

def LineKind.inTarget : LineKind → Nat
  | .context | .added => 1
  | .removed | .remark | .gap => 0

-- `value` keeps its own line feed.
structure HunkLine where
  kind : LineKind
  value : Text
  deriving DecidableEq, Repr

structure Range where
  start : Nat
  length : Nat
  deriving DecidableEq, Repr

structure Hunk where
  source : Range
  target : Range
  heading : Text
  lines : List HunkLine
  deriving DecidableEq, Repr

def Range.written (r : Range) : Text := Text.ofNat r.start ++ "," ++ Text.ofNat r.length

def HunkLine.written (l : HunkLine) : Text := l.kind.mark ++ l.value

def Hunk.header (h : Hunk) : Text :=
  "@@ -" ++ h.source.written ++ " +" ++ h.target.written ++ " @@" ++
    (if h.heading.isEmpty then [] else ' ' :: h.heading) ++ "\n"

def Hunk.written (h : Hunk) : Text := h.header ++ h.lines.flatMap HunkLine.written

def Hunk.count (kind : LineKind) (h : Hunk) : Nat := (h.lines.filter (·.kind = kind)).length

-- The values of the digits at the start of a text, and the rest.
def digits? (text : Text) : Option (List Nat × Text) :=
  match (text.takeWhile Text.isDigit).filterMap Text.digitValue? with
  | [] => none
  | digits => some (digits, text.dropWhile Text.isDigit)

-- A range as it is written, digit by digit.
structure WrittenRange where
  start : List Nat
  length : List Nat
  deriving DecidableEq, Repr

def WrittenRange.range (w : WrittenRange) : Range :=
  ⟨Text.ofDigitValues w.start, Text.ofDigitValues w.length⟩

-- `start` or `start,length`; a length that is not given is one.
def range? (text : Text) : Option (WrittenRange × Text) :=
  (digits? text).map fun (start, rest) =>
    match rest with
    | ',' :: more =>
      match digits? more with
      | some (length, rest) => (⟨start, length⟩, rest)
      | none => (⟨start, [1]⟩, rest)
    | _ => (⟨start, [1]⟩, rest)

def beforeLineFeed (text : Text) : Text := text.takeWhile (· ≠ '\n')

structure HunkHeader where
  source : WrittenRange
  target : WrittenRange
  heading : Text
  deriving DecidableEq, Repr

namespace HunkHeader

def ofLine? (line : Text) : Option HunkHeader := do
  let rest ← Text.after? "@@ -" line
  let (source, rest) ← range? rest
  let rest ← Text.after? " +" rest
  let (target, rest) ← range? rest
  let rest ← Text.after? " @@" rest
  let heading :=
    match rest with
    | ' ' :: more => beforeLineFeed more
    | more => beforeLineFeed more
  return ⟨source, target, heading⟩

-- How many digits the first number has that is too long to be read.
def tooLong? (h : HunkHeader) : Option Nat :=
  ([h.source.start, h.source.length, h.target.start, h.target.length].map List.length).find?
    fun digits => Text.digitLimit < digits

-- A hunk that has no lines yet.
def hunk (h : HunkHeader) : Hunk := ⟨h.source.range, h.target.range, h.heading, []⟩

end HunkHeader

def isReturn (c : Char) : Bool := c = '\r' || c = '\n'

-- A line inside a hunk: by its mark, or a context line that lost its mark together with its text.
def HunkLine.ofLine? : Text → Option HunkLine
  | ' ' :: value => some ⟨.context, value⟩
  | '+' :: value => some ⟨.added, value⟩
  | '-' :: value => some ⟨.removed, value⟩
  | '\\' :: value => some ⟨.remark, value⟩
  | c :: rest => if isReturn c then some ⟨.context, c :: (rest.take 1).filter isReturn⟩ else none
  | [] => none

end PatchReview.Diff
