import PatchReview.Text.Basic

-- Templates: fixed text with named slots.  Filling goes over the template once, so what is put into
-- a slot is never looked at again.
namespace PatchReview

inductive Piece (Slot : Type) where
  | text (t : Text)
  | slot (s : Slot)
  deriving DecidableEq, Repr

abbrev Template (Slot : Type) := List (Piece Slot)

namespace Template

variable {Slot : Type}

def fill (value : Slot → Text) (template : Template Slot) : Text :=
  template.flatMap fun
    | .text t => t
    | .slot s => value s

-- The template as it is written down: a slot is its name in braces.
def written (name : Slot → Text) (template : Template Slot) : Text :=
  template.fill fun s => "\x7b" ++ name s ++ "\x7d"

end Template
end PatchReview
