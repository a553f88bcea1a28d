import PatchReview.Text.CodePoint

-- Paths, as a root and a list of names.  Reading a path drops empty and `.` components; `..` stays.
namespace PatchReview

-- A name need not be text: a byte that belongs to no character stands for itself, by what it has
-- above 128, and is taken for a surrogate.
inductive NamePart
  | char (c : Char)
  | byte (low : Fin 128)
  deriving DecidableEq, Repr

namespace NamePart

def point : NamePart → Text.CodePoint
  | char c => .char c
  | byte low => .surrogate (0xdc80 + low)

def value : NamePart → Nat
  | char c => c.toNat
  | byte low => 0xdc80 + low

instance : LT NamePart := ⟨fun a b => a.value < b.value⟩

instance (a b : NamePart) : Decidable (a < b) := inferInstanceAs (Decidable (a.value < b.value))

def width : NamePart → Nat
  | char c => c.utf8Size
  | byte _ => 1

end NamePart

abbrev Name := List NamePart

namespace Name

def ofText (text : Text) : Name := text.map .char

instance : Coe Text Name := ⟨ofText⟩

instance : Coe String Name := ⟨fun text => ofText text.toList⟩

def points (name : Name) : List Text.CodePoint := name.map NamePart.point

def isText (name : Name) : Bool := name.points.all Text.CodePoint.isChar

-- The name itself if it is text, and else a text that is like it.
def text (name : Name) : Text := Text.ofCodePoints name.points

def byteLength (name : Name) : Nat := (name.map NamePart.width).foldr (· + ·) 0

end Name

structure Path where
  root : Text := []
  names : List Name := []
  deriving DecidableEq, Repr

namespace Path

-- Exactly two slashes in front are a root of their own.
def rootOf : Text → Text
  | '/' :: '/' :: '/' :: _ => "/"
  | '/' :: '/' :: _ => "//"
  | '/' :: _ => "/"
  | _ => []

def ofText (text : Text) : Path where
  root := rootOf text
  names := ((Text.splitAt '/' text).filter fun name => !name.isEmpty && name ≠ ['.']).map .ofText

-- A path as one name, with slashes between its names.
def whole (p : Path) : Name :=
  if p.root.isEmpty ∧ p.names.isEmpty then "."
  else Name.ofText p.root ++ ("/" : Name).intercalate p.names

def text (p : Path) : Text := p.whole.text

def extend (base : Path) (names : List Name) : Path := { base with names := base.names ++ names }

-- A rooted path stands for itself wherever it is looked up.
def join (base p : Path) : Path := if p.root.isEmpty then base.extend p.names else p

end Path
end PatchReview
