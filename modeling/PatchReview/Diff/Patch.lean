import PatchReview.Diff.Header
import PatchReview.Text.Lines

-- Reading a unified diff, line by line, into the files that it compares.
namespace PatchReview.Diff

def nowhere : Text := "/dev/null"

structure FilePatch where
  source : Text
  target : Text
  hunks : List Hunk := []
  deriving DecidableEq, Repr

namespace FilePatch

def addHunk (f : FilePatch) (h : Hunk) : FilePatch := { f with hunks := f.hunks ++ [h] }

def mapLastHunk (change : Hunk → Hunk) (f : FilePatch) : FilePatch :=
  { f with hunks := f.hunks.dropLast ++ (f.hunks.getLast?.map change).toList }

def addLine (f : FilePatch) (l : HunkLine) : FilePatch :=
  f.mapLastHunk fun h => { h with lines := h.lines ++ [l] }

-- Added files come from nowhere, or their only hunk has an empty source at line zero.
def isAdded (f : FilePatch) : Bool :=
  f.source = nowhere ||
    match f.hunks with
    | [h] => h.source = ⟨0, 0⟩
    | _ => false

def isRemoved (f : FilePatch) : Bool :=
  f.target = nowhere ||
    match f.hunks with
    | [h] => h.target = ⟨0, 0⟩
    | _ => false

-- Names are compared without their first two characters, where `a/` and `b/` stand.
def isRename (f : FilePatch) : Bool :=
  f.source ≠ nowhere && f.target ≠ nowhere && f.source.drop 2 ≠ f.target.drop 2

def count (kind : LineKind) (f : FilePatch) : Nat :=
  (f.hunks.map (Hunk.count kind)).foldr (· + ·) 0

end FilePatch

inductive ParseError
  | newFile (line : Text)
  | deletedFile (line : Text)
  | targetWithoutSource (line : Text)
  | hunkOutsideFile (line : Text)
  | numberTooLong (digits : Nat)
  | remarkOutsideFile (line : Text)
  | remarkOutsideHunk
  | binaryOutsideFile (line : Text)
  | hunkLineExpected (line : Text)
  | hunkTooLong
  | hunkTooShort
  deriving DecidableEq, Repr

def ParseError.message : ParseError → Text
  | .newFile line => "Unexpected new file found: " ++ line
  | .deletedFile line => "Unexpected deleted file found: " ++ line
  | .targetWithoutSource line => "Target without source: " ++ line
  | .hunkOutsideFile line => "Unexpected hunk found: " ++ line
  | .numberTooLong digits => Text.tooLongMessage digits
  | .remarkOutsideFile line => "Unexpected marker: " ++ line
  | .remarkOutsideHunk => "Unexpected marker: No newline at end of file"
  | .binaryOutsideFile line => "Unexpected binary patch marker: " ++ line
  | .hunkLineExpected line => "Hunk diff line expected: " ++ line
  | .hunkTooLong => "Hunk is longer than expected"
  | .hunkTooShort => "Hunk is shorter than expected"

-- A hunk being read: its lines so far, the last one first, and how many of them each side has.
structure OpenHunk where
  header : Hunk
  lastFirst : List HunkLine := []
  sourceRead : Nat := 0
  targetRead : Nat := 0
  deriving DecidableEq, Repr

namespace OpenHunk

def add (o : OpenHunk) (l : HunkLine) : OpenHunk :=
  { o with
    lastFirst := l :: o.lastFirst
    sourceRead := o.sourceRead + l.kind.inSource
    targetRead := o.targetRead + l.kind.inTarget }

def hunk (o : OpenHunk) : Hunk := { o.header with lines := o.lastFirst.reverse }

def isShort (o : OpenHunk) : Bool :=
  o.sourceRead < o.header.source.length || o.targetRead < o.header.target.length

def isLong (o : OpenHunk) : Bool :=
  o.header.source.length < o.sourceRead || o.header.target.length < o.targetRead

end OpenHunk

-- `current` is the last file, as long as lines can still belong to it; `inHeader` tells whether the
-- reader is inside a block of lines before a hunk; `pendingSource` waits for its target.
structure Reader where
  closed : List FilePatch := []
  current : Option FilePatch := none
  inHeader : Bool := false
  pendingSource : Option Text := none
  openHunk : Option OpenHunk := none
  deriving DecidableEq, Repr

namespace Reader

def files (r : Reader) : List FilePatch := r.closed ++ r.current.toList

def close (r : Reader) : Reader := { r with closed := r.files, current := none }

def openFile (r : Reader) (source target : Text) : Reader :=
  { r with closed := r.files, current := some { source, target } }

def update (r : Reader) (change : FilePatch → FilePatch) : Reader :=
  { r with current := r.current.map change }

def hasHunk (r : Reader) : Bool := r.current.any fun f => !f.hunks.isEmpty

-- A line while a hunk is open.  A hunk is complete when both counts are reached, which is asked
-- only after a line was read.
def hunkStep (r : Reader) (o : OpenHunk) (line : Text) : Except ParseError Reader :=
  match HunkLine.ofLine? line with
  | none => .error (.hunkLineExpected line)
  | some l =>
    let o := o.add l
    if o.isLong then .error .hunkTooLong
    else if o.isShort then .ok { r with openHunk := some o }
    else .ok { r.update (·.addHunk o.hunk) with openHunk := none }

-- A line that nothing else claims: it ends the file at hand unless a header block is open.
def otherStep (r : Reader) (line : Text) : Except ParseError Reader :=
  let r := if r.inHeader then r else { r.close with inHeader := true }
  match binaryNames? line with
  | some (source, target) =>
    let r := if r.current.isNone then r.openFile source (target.getD source) else r
    .ok { r.close with inHeader := false, pendingSource := some source }
  | none =>
    if line = "GIT binary patch\n" then
      if r.current.isNone then .error (.binaryOutsideFile line)
      else .ok { r.close with inHeader := false }
    else .ok r

def targetStep (r : Reader) (target line : Text) : Except ParseError Reader :=
  match r.current with
  | some f => if f.target = target then .ok r else .error (.targetWithoutSource line)
  | none =>
    match r.pendingSource with
    | none => .error (.targetWithoutSource line)
    | some source =>
      .ok { r.openFile source target with inHeader := false, pendingSource := none }

def remarkStep (r : Reader) (line : Text) : Except ParseError Reader :=
  if r.current.isNone then .error (.remarkOutsideFile line)
  else if !r.hasHunk then .error .remarkOutsideHunk
  else .ok (r.update (·.addLine ⟨.remark, " No newline at end of file\n"⟩))

-- The header of a hunk, whose numbers must be short enough to be read.
def openStep (r : Reader) (header : HunkHeader) (line : Text) : Except ParseError Reader :=
  if r.current.isNone then .error (.hunkOutsideFile line)
  else
    match header.tooLong? with
    | some digits => .error (.numberTooLong digits)
    | none => .ok { r with inHeader := false, openHunk := some { header := header.hunk } }

-- A line outside hunks; the first case that applies.
def headerStep (r : Reader) (line : Text) : Except ParseError Reader :=
  match comparedNames? line with
  | some (source, target) =>
    .ok { r.openFile source target with inHeader := true, pendingSource := some source }
  | none =>
  let inBlock := r.current.isSome && r.inHeader
  if isNewFile line then
    if inBlock then .ok (r.update fun f => { f with source := nowhere }) else .error (.newFile line)
  else if isDeletedFile line then
    if inBlock then .ok (r.update fun f => { f with target := nowhere })
    else .error (.deletedFile line)
  else if inBlock && isModeChange line then .ok r
  else
  match sourceName? line with
  | some source =>
    .ok { (if r.inHeader then r else r.close) with pendingSource := some source }
  | none =>
  match targetName? line with
  | some target => r.targetStep target line
  | none =>
  match HunkHeader.ofLine? line with
  | some header => r.openStep header line
  | none =>
  if Text.startsWith line noFinalNewline then r.remarkStep line
  else if line = ['\n'] ∧ r.hasHunk then .ok (r.update (·.addLine ⟨.gap, ['\n']⟩))
  else r.otherStep line

def step (r : Reader) (line : Text) : Except ParseError Reader :=
  match r.openHunk with
  | some o => r.hunkStep o line
  | none => r.headerStep line

-- At the end a hunk may still be open only if it wants no line.
def finish (r : Reader) : Except ParseError (List FilePatch) :=
  match r.openHunk with
  | none => .ok r.files
  | some o => if o.isShort then .error .hunkTooShort else .ok (r.update (·.addHunk o.hunk)).files

end Reader

def readLines (lines : List Text) : Except ParseError (List FilePatch) := do
  let r ← lines.foldlM Reader.step {}
  r.finish

def read (text : Text) : Except ParseError (List FilePatch) := readLines (Text.terminatedLines text)

end PatchReview.Diff
