import PatchReview.Proofs.Pattern.Denotes

-- Patterns that ask nothing of what stands around a piece: no anchor, no word edge, no look ahead.
-- What such a pattern finds in a text it finds in every text that holds it, for its pieces are the
-- same wherever they stand.
namespace PatchReview
namespace Pattern

def placeless : Pattern → Bool
  | nothing | char _ | many .. => true
  | seq p q | alt p q => p.placeless && q.placeless
  | wordEdge | textStart | textEnd | lineStart | lineEnd | notAhead _ => false

variable {p : Pattern} {blind : Bool}

theorem denotes_anywhere (free : p.placeless = true) (left right front back piece : Text) :
    p.Denotes blind left piece right ↔ p.Denotes blind front piece back := by
  induction p generalizing left right front back piece with
  | nothing | char | many => rfl
  | seq p q hp hq =>
    simp only [placeless, Bool.and_eq_true] at free
    constructor
    · intro given
      obtain ⟨first, second, parts, one, two⟩ := given
      exact ⟨first, second, parts, (hp free.1 _ _ _ _ first).mp one,
        (hq free.2 _ _ _ _ second).mp two⟩
    · intro given
      obtain ⟨first, second, parts, one, two⟩ := given
      exact ⟨first, second, parts, (hp free.1 _ _ _ _ first).mpr one,
        (hq free.2 _ _ _ _ second).mpr two⟩
  | alt p q hp hq =>
    simp only [placeless, Bool.and_eq_true] at free
    exact or_congr (hp free.1 left right front back piece) (hq free.2 left right front back piece)
  | wordEdge | textStart | textEnd | lineStart | lineEnd | notAhead => cases free

-- A piece is in the language on its own.
theorem occurs_iff_part (free : p.placeless = true) (text : Text) :
    p.Occurs blind text ↔ ∃ piece, piece <:+: text ∧ p.Denotes blind [] piece [] := by
  constructor
  · intro given
    obtain ⟨left, piece, right, cut, inside⟩ := given
    exact ⟨piece, ⟨left, right, cut.symm⟩, (denotes_anywhere free _ _ _ _ piece).mp inside⟩
  · intro given
    obtain ⟨piece, ⟨left, right, cut⟩, inside⟩ := given
    exact ⟨left, piece, right, cut.symm, (denotes_anywhere free _ _ _ _ piece).mp inside⟩

theorem Occurs.wider (free : p.placeless = true) {text wide : Text} (within : text <:+: wide)
    (found : p.Occurs blind text) : p.Occurs blind wide := by
  obtain ⟨piece, part, inside⟩ := (occurs_iff_part free text).mp found
  exact (occurs_iff_part free wide).mpr ⟨piece, part.trans within, inside⟩

end Pattern
end PatchReview
