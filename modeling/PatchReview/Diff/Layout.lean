import Mathlib.Algebra.Ring.Nat
import PatchReview.Diff.Changes

-- How git lays out a diff: for each file the lines that name it, and then its hunks, whose lengths
-- are counted from their own lines.  Reading is the other direction.
namespace PatchReview.Diff

-- A name that a line can hold as it is.
def IsName (name : Text) : Prop := name ≠ [] ∧ ∀ c ∈ name, Text.isBlank c = false

theorem isName_iff {name : Text} :
    name ≠ [] ∧ (name.all fun c => !Text.isBlank c) = true ↔ IsName name := by
  simp [IsName]

instance (name : Text) : Decidable (IsName name) := decidable_of_iff _ isName_iff

inductive Change
  | modified (name : Text)
  | added (name : Text)
  | deleted (name : Text)
  | renamed (source target : Text)
  deriving DecidableEq, Repr

namespace Change

def source : Change → Text
  | modified name | added name | deleted name => name
  | renamed source _ => source

def target : Change → Text
  | modified name | added name | deleted name => name
  | renamed _ target => target

def compared (c : Change) : Text := "diff --git a/" ++ c.source ++ " b/" ++ c.target ++ "\n"

-- Only files that come or go tell their mode.
def mode : Change → Text
  | added _ => "new file mode 100644\n"
  | deleted _ => "deleted file mode 100644\n"
  | modified _ | renamed _ _ => ""

-- The name on the side where the file does not exist is that of nowhere.
def sourceSide : Change → Text
  | added _ => nowhere
  | modified name | deleted name | renamed name _ => "a/" ++ name

def targetSide : Change → Text
  | deleted _ => nowhere
  | modified name | added name | renamed _ name => "b/" ++ name

-- Only a rename has two names.
def Named : Change → Prop
  | modified name | added name | deleted name => IsName name
  | renamed source target => IsName source ∧ IsName target ∧ source ≠ target

def status : Change → ChangeStatus
  | modified _ => .modified
  | added _ => .added
  | deleted _ => .deleted
  | renamed _ _ => .renamed

def previous? : Change → Option Text
  | renamed source _ => some source
  | modified _ | added _ | deleted _ => none

def written (c : Change) : Text :=
  c.compared ++ c.mode ++ "--- " ++ c.sourceSide ++ "\n+++ " ++ c.targetSide ++ "\n"

end Change

-- A line of a file that stays, comes or goes, without its line feed.
inductive Edit
  | keep (content : Text)
  | add (content : Text)
  | remove (content : Text)
  deriving DecidableEq, Repr

def Edit.content : Edit → Text
  | keep content | add content | remove content => content

def Edit.row : Edit → Text
  | keep content => ' ' :: content
  | add content => '+' :: content
  | remove content => '-' :: content

def Edit.isAdd : Edit → Bool
  | add _ => true
  | keep _ | remove _ => false

def Edit.isRemove : Edit → Bool
  | remove _ => true
  | keep _ | add _ => false

def Edit.line : Edit → HunkLine
  | keep content => ⟨.context, content ++ "\n"⟩
  | add content => ⟨.added, content ++ "\n"⟩
  | remove content => ⟨.removed, content ++ "\n"⟩

-- `brief` headers leave out a length of one.
structure Block where
  sourceStart : Nat
  targetStart : Nat
  heading : Text := []
  edits : List Edit
  brief : Bool := false
  deriving DecidableEq, Repr

def Range.spelled (brief : Bool) (r : Range) : Text :=
  if brief ∧ r.length = 1 then Text.ofNat r.start else r.written

namespace Block

def lines (b : Block) : List HunkLine := b.edits.map Edit.line

def hunk (b : Block) : Hunk where
  source := ⟨b.sourceStart, (b.lines.map fun l => l.kind.inSource).sum⟩
  target := ⟨b.targetStart, (b.lines.map fun l => l.kind.inTarget).sum⟩
  heading := b.heading
  lines := b.lines

def header (b : Block) : Text :=
  "@@ -" ++ b.hunk.source.spelled b.brief ++ " +" ++ b.hunk.target.spelled b.brief ++ " @@" ++
    (if b.heading.isEmpty then [] else ' ' :: b.heading)

-- The numbers that the header says.
def numbers (b : Block) : List Nat :=
  [b.hunk.source.start, b.hunk.source.length, b.hunk.target.start, b.hunk.target.length]

def written (b : Block) : Text := b.header ++ "\n" ++ b.lines.flatMap HunkLine.written

-- The header in full, and what stands on each line behind it.
def rows (b : Block) : List Text := { b with brief := false }.header :: b.edits.map Edit.row

-- Every line is one line, there are some, and no number of the header has more digits than the
-- reader takes; a hunk with that many lines fits no machine.
structure Valid (b : Block) : Prop where
  heading : '\n' ∉ b.heading
  filled : b.edits ≠ []
  inLine : ∀ edit ∈ b.edits, '\n' ∉ edit.content
  short : ∀ n ∈ b.numbers, n < 10 ^ Text.digitLimit

end Block

-- Lines are numbered from one in a file that exists; what stands on the other side does not matter
-- for a file that comes.
def Change.Numbers : Change → Block → Prop
  | added _, _ => True
  | deleted _, b => 0 < b.sourceStart
  | modified _, b | renamed _ _, b => 0 < b.sourceStart ∧ 0 < b.targetStart

structure Entry where
  change : Change
  blocks : List Block
  deriving DecidableEq, Repr

namespace Entry

def hunks (e : Entry) : List Hunk := e.blocks.map Block.hunk

def written (e : Entry) : Text := e.change.written ++ e.blocks.flatMap Block.written

-- What the reader holds after an entry.
def filePatch (e : Entry) : FilePatch := ⟨e.change.sourceSide, e.change.targetSide, e.hunks⟩

def edits (e : Entry) : List Edit := e.blocks.flatMap Block.edits

-- The file that an entry is about.
def changedFile (e : Entry) : ChangedFile where
  filename := e.change.target
  status := e.change.status
  patch := Text.unlines (e.blocks.flatMap Block.rows)
  additions := e.edits.countP Edit.isAdd
  deletions := e.edits.countP Edit.isRemove
  previousFilename := e.change.previous?

structure Valid (e : Entry) : Prop where
  named : e.change.Named
  filled : e.blocks ≠ []
  blocks : ∀ b ∈ e.blocks, b.Valid
  numbers : ∀ b ∈ e.blocks, e.change.Numbers b

end Entry

def layout (entries : List Entry) : Text := entries.flatMap Entry.written

end PatchReview.Diff
