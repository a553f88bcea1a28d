import PatchReview.PullReview

-- A review that is put together step by step: files are added and dropped, and now and then the
-- whole is summed up.  A step that fails leaves everything as it was.
namespace PatchReview

structure Session where
  files : List ReviewedFile := []
  review : ReviewSet := {}
  deriving DecidableEq, Repr

namespace Session

def add (s : Session) (reviewed : List ReviewedFile) : Session :=
  { s with files := s.files ++ reviewed }

def addFiles (analyzer : Analyzer) (files : List ChangedFile) (s : Session) :
    Run (List ReviewedFile × Session) := do
  let reviewed ← Reviewing.reviewAll analyzer files
  return (reviewed, s.add reviewed)

-- A review in prose says nothing about the size of a change.
def addProse (filename text : Text) (s : Session) : List ReviewedFile × Session :=
  let reviewed : List ReviewedFile := [{ filename, analysis := Prose.parse filename text }]
  (reviewed, s.add reviewed)

def drop (filename : Text) (s : Session) : Session :=
  { s with files := s.files.filter fun file => file.filename ≠ filename }

def stats (s : Session) : ReviewStats := .ofFiles s.files

def sumUp (scope : Json) (pull : Option PullHeading) (s : Session) : Run Session := do
  let review ← Reviewing.sumUpNamed s.files scope pull
  return { s with review }

-- Writes the review as JSON and takes up what is read back.
def reload (s : Session) : Except Validation.Report Session :=
  (ReviewSet.ofDocument (s.review.render .json false)).map fun review =>
    { files := review.files, review }

end Session
end PatchReview
