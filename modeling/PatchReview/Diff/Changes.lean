import PatchReview.Diff.Patch
import PatchReview.Review.Basic

-- A diff as a list of changed files.  The patch of a file holds its hunks only, so line numbers in
-- findings count from the first hunk header.
namespace PatchReview.Diff

-- A name without the `a/` or `b/` in front of it.
def dropSide (name : Text) : Text :=
  match name with
  | 'a' :: '/' :: rest => rest
  | 'b' :: '/' :: rest => rest
  | _ => name

namespace FilePatch

def status (f : FilePatch) : ChangeStatus :=
  if f.isAdded then .added
  else if f.isRemoved then .deleted
  else if f.isRename then .renamed
  else .modified

def patchText (f : FilePatch) : Text :=
  Text.dropEndWhile (· = '\n') (f.hunks.flatMap Hunk.written)

def toChangedFile (f : FilePatch) : ChangedFile :=
  { filename := if f.target = nowhere then dropSide f.source else dropSide f.target
    status := f.status
    patch := f.patchText
    additions := f.count .added
    deletions := f.count .removed
    previousFilename := if f.status = .renamed then some (dropSide f.source) else none }

end FilePatch

-- Text without any visible character is a diff of nothing.
def changedFiles (diff : Text) : Except ParseError (List ChangedFile) :=
  if (Text.trim diff).isEmpty then .ok []
  else (read diff).map (·.map FilePatch.toChangedFile)

end PatchReview.Diff
