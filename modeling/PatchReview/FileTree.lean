import PatchReview.Path
import PatchReview.Text.Quoted
import PatchReview.Text.Utf8

-- The files that a run can reach, and what it may do with them.  A directory is a place above a
-- file, or one that was made empty, or one that is there on any machine; there are no links.
namespace PatchReview

inductive FileFault
  | notFound
  | denied
  | notDirectory
  | isDirectory
  | nameTooLong
  deriving DecidableEq, Repr

structure FileError where
  fault : FileFault
  path : Name
  deriving DecidableEq, Repr

def FileFault.message : FileFault → Text
  | .notFound => "[Errno 2] No such file or directory"
  | .denied => "[Errno 13] Permission denied"
  | .notDirectory => "[Errno 20] Not a directory"
  | .isDirectory => "[Errno 21] Is a directory"
  | .nameTooLong => "[Errno 36] File name too long"

def FileError.message (e : FileError) : Text :=
  e.fault.message ++ ": " ++ Text.quotedPoints e.path.points

-- Names from the working directory on.  Above it stand places that begin with `..`, and elsewhere
-- those that begin with `/`; both occur nowhere else in a place.
abbrev Place := List Name

namespace Place

def up : Name := ".."

def root : Place := ["/"]

-- One step along a path.  Nothing is above the root.
def enter (place : Place) (name : Name) : Place :=
  if name ≠ up then place ++ [name]
  else if place = root then root
  else if place.all (· = up) then place ++ [up]
  else place.dropLast

def ofPath (path : Path) : Place :=
  path.names.foldl enter (if path.root.isEmpty then [] else root)

-- A place as it is seen from the working directory.
def path (place : Place) : Path := { names := place }

-- Names that lead from a directory to something below it.
def leadsDown (names : List Name) : Bool :=
  match names with
  | [] => false
  | name :: _ => name ≠ up && [name] ≠ root

def isAbove (place below : Place) : Bool :=
  place.isPrefixOf below && leadsDown (below.drop place.length)

-- Where names lead, one after another.
def steps : Place → List Place
  | [] => []
  | name :: rest => [name] :: (steps rest).map (name :: ·)

-- The directories in which names stand, from a place on.
def holders : Place → List Name → List Place
  | _, [] => []
  | place, name :: rest => place :: holders (place ++ [name]) rest

end Place

structure FileTree where
  files : List (Place × Text.Bytes) := []
  emptyDirectories : List Place := []
  -- Files whose content, and directories whose entries, may not be read.
  unreadable : List Place := []
  -- Directories in which nothing may be looked up.
  unsearchable : List Place := []
  -- Files that may not be written, and directories in which nothing may be made.
  unwritable : List Place := []
  deriving DecidableEq, Repr

namespace FileTree

-- Into a sink anything can be written, and nothing comes out of it.
inductive Node
  | file (content : Text.Bytes)
  | directory
  | sink
  deriving DecidableEq, Repr

def sink : Place := ["/", "dev", "null"]

def standardDirectories : List Place :=
  Place.root :: (["bin", "boot", "dev", "etc", "home", "lib", "media", "mnt", "opt", "proc", "root",
    "run", "sbin", "srv", "sys", "tmp", "usr", "var"] : List Name).map fun name =>
      Place.root ++ [name]

-- The working directory and all above it are directories.
def isDirectory (tree : FileTree) (place : Place) : Bool :=
  place.all (· = Place.up) || standardDirectories.contains place ||
    tree.files.any (fun entry => Place.isAbove place entry.1) ||
    tree.emptyDirectories.any place.isPrefixOf

def contentAt? (tree : FileTree) (place : Place) : Option Text.Bytes :=
  (tree.files.find? fun entry => entry.1 = place).map (·.2)

def nodeAt? (tree : FileTree) (place : Place) : Option Node :=
  match tree.contentAt? place with
  | some content => some (.file content)
  | none =>
    if place = sink then some .sink
    else if tree.isDirectory place then some .directory
    else none

-- Lengths in bytes that a name and a whole path may have.
def nameLimit : Nat := 255

def pathLimit : Nat := 4095

-- Walks names from a place on.  The result is where the last one leads, whether or not something is
-- there; all before it must be directories, and allow it to be looked up.
def walk (tree : FileTree) : Place → List Name → Except FileFault Place
  | place, [] => .ok place
  | place, name :: rest =>
    match tree.nodeAt? place with
    | some .directory =>
      if tree.unsearchable.contains place then .error .denied
      else if nameLimit < name.byteLength then .error .nameTooLong
      else walk tree (Place.enter place name) rest
    | some _ => .error .notDirectory
    | none => .error .notFound

-- The working directory itself is looked up in itself.
def locate (tree : FileTree) (path : Path) : Except FileFault Place :=
  if pathLimit < path.whole.byteLength then .error .nameTooLong
  else if path.root.isEmpty ∧ path.names.isEmpty ∧ tree.unsearchable.contains [] then
    .error .denied
  else tree.walk (if path.root.isEmpty then [] else Place.root) path.names

-- What a path leads to.
def lookup (tree : FileTree) (path : Path) : Except FileFault Node :=
  match tree.locate path with
  | .error fault => .error fault
  | .ok place =>
    match tree.nodeAt? place with
    | some node => .ok node
    | none => .error .notFound

-- What a path leads to, if anything: a question that has an answer unless a name is too long or a
-- directory on the way may not be searched.
def ask (tree : FileTree) (path : Path) : Except FileError (Option Node) :=
  match tree.lookup path with
  | .ok node => .ok (some node)
  | .error .nameTooLong => .error ⟨.nameTooLong, path.whole⟩
  | .error .denied => .error ⟨.denied, path.whole⟩
  | .error _ => .ok none

def read (tree : FileTree) (path : Path) : Except FileError Text.Bytes :=
  match tree.locate path with
  | .error fault => .error ⟨fault, path.whole⟩
  | .ok place =>
    match tree.nodeAt? place with
    | none => .error ⟨.notFound, path.whole⟩
    | some node =>
      if tree.unreadable.contains place then .error ⟨.denied, path.whole⟩
      else
        match node with
        | .file content => .ok content
        | .sink => .ok []
        | .directory => .error ⟨.isDirectory, path.whole⟩

def setContent (place : Place) (content : Text.Bytes) :
    List (Place × Text.Bytes) → List (Place × Text.Bytes)
  | [] => [(place, content)]
  | entry :: rest =>
    if entry.1 = place then (place, content) :: rest else entry :: setContent place content rest

-- What stands at a place may be written, or something new may be made there.
def mayWrite (tree : FileTree) (place : Place) : Bool :=
  match tree.nodeAt? place with
  | some _ => !tree.unwritable.contains place
  | none => !tree.unwritable.contains place.dropLast

-- Writing makes a new file in a directory that exists, or replaces the content of a file.
def write (tree : FileTree) (path : Path) (content : Text.Bytes) : Except FileError FileTree :=
  match tree.locate path with
  | .error fault => .error ⟨fault, path.whole⟩
  | .ok place =>
    match tree.nodeAt? place with
    | some .directory => .error ⟨.isDirectory, path.whole⟩
    | node =>
      if !tree.mayWrite place then .error ⟨.denied, path.whole⟩
      else if node = some .sink then .ok tree
      else .ok { tree with files := setContent place content tree.files }

def comesBefore (a b : Place) : Bool := !b.lex a fun one other => one.lex other fun c d => c < d

-- What stands below a directory is listed if the directory, and each on the way, may be read.
def isListed (tree : FileTree) (place : Place) (names : List Name) : Bool :=
  (Place.holders place names).all fun directory => !tree.unreadable.contains directory

-- Every file at any depth below a directory, as names from there on, in the order of their names.
def below (tree : FileTree) (place : Place) : List Place :=
  ((((tree.files.map (·.1)).filter (Place.isAbove place)).map
    (·.drop place.length)).filter (tree.isListed place)).mergeSort comesBefore

-- Every directory at any depth below a directory, and every file, as names from there on.
def entriesBelow (tree : FileTree) (place : Place) : List Place :=
  (((tree.files.map (·.1) ++ tree.emptyDirectories).filter (Place.isAbove place)).flatMap
    fun entry => Place.steps (entry.drop place.length)).filter (tree.isListed place)

def refusal? (tree : FileTree) (path : Path) : Option FileError :=
  match tree.ask path with
  | .error cause => some cause
  | .ok _ => none

-- The files below a directory, each with the path that leads to the directory in front.  Of all
-- that is listed there it is asked what it is, and that may be refused; of several refusals, which
-- one is met first is up to the order in which directories are listed.
def filesUnder (tree : FileTree) (path : Path) : Except FileError (List Path) :=
  match tree.locate path with
  | .error fault => .error ⟨fault, path.whole⟩
  | .ok place =>
    match ((tree.entriesBelow place).map path.extend).findSome? tree.refusal? with
    | some cause => .error cause
    | none => .ok ((tree.below place).map path.extend)

-- Files that are new in a later tree, or have another content there.
def changedFiles (before after : FileTree) : List (Place × Text.Bytes) :=
  after.files.filter fun (place, content) => before.contentAt? place ≠ some content

end FileTree
end PatchReview
