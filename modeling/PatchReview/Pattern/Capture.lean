import PatchReview.Pattern.Basic

-- Patterns with one part singled out: what stands before it, the part itself, and what stands
-- after.  The three operations are the first match, all matches from left to right without overlap,
-- and the text in which each match is replaced by its part.
namespace PatchReview

structure Capture where
  lead : Pattern
  body : Pattern
  tail : Pattern
  deriving DecidableEq, Repr

namespace Capture

structure Found where
  start : Cursor
  bodyStart : Cursor
  bodyEnd : Cursor
  stop : Cursor
  deriving DecidableEq, Repr

namespace Found

def text (found : Found) : Text := found.bodyStart.upTo found.bodyEnd

def width (found : Found) : Nat := found.stop.offset - found.start.offset

end Found

def at? (p : Capture) (c : Cursor) : Option Found :=
  p.lead.tryAt c fun bodyStart =>
    p.body.tryAt bodyStart fun bodyEnd =>
      p.tail.tryAt bodyEnd fun stop => some ⟨c, bodyStart, bodyEnd, stop⟩

def firstFrom? (p : Capture) (before : Text) (offset : Nat) : Text → Option Found
  | [] => p.at? ⟨before, [], offset⟩
  | c :: rest =>
    (p.at? ⟨before, c :: rest, offset⟩).orElse fun _ =>
      p.firstFrom? (c :: before) (offset + 1) rest

def first? (p : Capture) (text : Text) : Option Found := p.firstFrom? [] 0 text

-- A match here that is worth taking: one that consumes something.
def taken? (p : Capture) (c : Cursor) : Option Found := (p.at? c).filter (0 < ·.width)

-- `skip` characters belong to the match before and start no match of their own.
def allFrom (p : Capture) : (skip : Nat) → (before : Text) → (offset : Nat) → Text → List Found
  | _, _, _, [] => []
  | skip + 1, before, offset, c :: rest => p.allFrom skip (c :: before) (offset + 1) rest
  | 0, before, offset, c :: rest =>
    match p.taken? ⟨before, c :: rest, offset⟩ with
    | some found => found :: p.allFrom (found.width - 1) (c :: before) (offset + 1) rest
    | none => p.allFrom 0 (c :: before) (offset + 1) rest

def all (p : Capture) (text : Text) : List Found := p.allFrom 0 [] 0 text

def keepFrom (p : Capture) : (skip : Nat) → (before : Text) → (offset : Nat) → Text → Text
  | _, _, _, [] => []
  | skip + 1, before, offset, c :: rest => p.keepFrom skip (c :: before) (offset + 1) rest
  | 0, before, offset, c :: rest =>
    match p.taken? ⟨before, c :: rest, offset⟩ with
    | some found => found.text ++ p.keepFrom (found.width - 1) (c :: before) (offset + 1) rest
    | none => c :: p.keepFrom 0 (c :: before) (offset + 1) rest

-- The text with each match replaced by its singled-out part.
def keepBodies (p : Capture) (text : Text) : Text := p.keepFrom 0 [] 0 text

end Capture
end PatchReview
