import PatchReview.Pattern.CharSet

-- Patterns over text, and how one is matched.  A cursor is a position in a text together with both
-- sides of it, so that anchors and word edges look at the whole text.  Repetition ranges over
-- single characters, which is all that the rules of this library need.
namespace PatchReview

-- A position: what stands before it, nearest character first, what stands after it, and how many
-- characters stand before it.
structure Cursor where
  before : Text
  after : Text
  offset : Nat
  deriving DecidableEq, Repr

namespace Cursor

def start (text : Text) : Cursor := ⟨[], text, 0⟩

def atTextStart (c : Cursor) : Bool := c.before.isEmpty

-- The end of the text, or just before a final line feed.
def atTextEnd (c : Cursor) : Bool := c.after.isEmpty || c.after == ['\n']

def atLineStart (c : Cursor) : Bool := c.before.isEmpty || c.before.head? == some '\n'

def atLineEnd (c : Cursor) : Bool := c.after.isEmpty || c.after.head? == some '\n'

def wordSide (side : Text) : Bool := side.head?.any Text.isWord

-- Exactly one side of the position is a word character.
def atWordEdge (c : Cursor) : Bool := wordSide c.before != wordSide c.after

-- The text passed over from one cursor to a later one.
def upTo (c stop : Cursor) : Text := c.after.take (stop.offset - c.offset)

end Cursor

inductive Pattern
  | nothing
  | char (set : CharSet)
  | seq (first second : Pattern)
  | alt (first second : Pattern)
  -- From `least` to `most` characters of a set, as many as possible first.
  | many (set : CharSet) (least : Nat) (most : Option Nat)
  | wordEdge
  | textStart
  | textEnd
  | lineStart
  | lineEnd
  -- Nothing that `ahead` matches stands here.
  | notAhead (ahead : Pattern)
  deriving DecidableEq, Repr

namespace Pattern

def seqs (parts : List Pattern) : Pattern := parts.foldr seq nothing

def alts : List Pattern → Pattern
  | [] => nothing
  | [p] => p
  | p :: rest => alt p (alts rest)

def exactly (text : Text) : Pattern := seqs (text.map fun c => char (.oneOf [c]))

def anyCase (text : Text) : Pattern := seqs (text.map fun c => char (.anyCase (.oneOf [c])))

def optional (p : Pattern) : Pattern := alt p nothing

def any (set : CharSet) : Pattern := many set 0 none

def some (set : CharSet) : Pattern := many set 1 none

-- Runs are tried longest first: one more character if there may be one, and else the end here.
def tryRun {α : Type} (set : CharSet) (least : Nat) (most : Option Nat) (before after : Text)
    (offset : Nat) (next : Cursor → Option α) : Option α :=
  let stop := fun (_ : Unit) => if least = 0 then next ⟨before, after, offset⟩ else none
  match after with
  | [] => stop ()
  | c :: rest =>
    if set.contains c ∧ most ≠ .some 0 then
      (tryRun set (least - 1) (most.map (· - 1)) (c :: before) rest (offset + 1) next).orElse stop
    else stop ()

-- The first way, in order of preference, to match from a cursor so that `next` accepts the end.
def tryAt : Pattern → {α : Type} → Cursor → (Cursor → Option α) → Option α
  | nothing, _, c, next => next c
  | char set, _, c, next =>
    match c.after with
    | [] => none
    | x :: rest => if set.contains x then next ⟨x :: c.before, rest, c.offset + 1⟩ else none
  | seq p q, _, c, next => p.tryAt c fun middle => q.tryAt middle next
  | alt p q, _, c, next => (p.tryAt c next).orElse fun _ => q.tryAt c next
  | many set least most, _, c, next => tryRun set least most c.before c.after c.offset next
  | wordEdge, _, c, next => if c.atWordEdge then next c else none
  | textStart, _, c, next => if c.atTextStart then next c else none
  | textEnd, _, c, next => if c.atTextEnd then next c else none
  | lineStart, _, c, next => if c.atLineStart then next c else none
  | lineEnd, _, c, next => if c.atLineEnd then next c else none
  | notAhead ahead, _, c, next => if (ahead.tryAt c Option.some).isSome then none else next c

-- The end of the preferred match from a cursor.
def endAt? (p : Pattern) (c : Cursor) : Option Cursor := p.tryAt c Option.some

-- Some span that starts at the cursor or later matches.
def foundFrom (p : Pattern) (before : Text) (offset : Nat) : Text → Bool
  | [] => (p.endAt? ⟨before, [], offset⟩).isSome
  | c :: rest =>
    (p.endAt? ⟨before, c :: rest, offset⟩).isSome || p.foundFrom (c :: before) (offset + 1) rest

def foundIn (p : Pattern) (text : Text) : Bool := p.foundFrom [] 0 text

-- The whole text matches.
def matchesAll (p : Pattern) (text : Text) : Bool :=
  (p.tryAt (.start text) fun stop => if stop.after.isEmpty then Option.some () else none).isSome

end Pattern
end PatchReview
