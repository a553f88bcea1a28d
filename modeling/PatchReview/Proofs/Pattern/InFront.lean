import PatchReview.Proofs.Pattern.Denotes

-- A character put in front of a text.  It makes no difference to a pattern that can neither begin
-- with it nor begin with nothing, and that does not ask where the text or a line starts; nor to one
-- that is bound to the start of the text but runs over any such character first.
namespace PatchReview
namespace Pattern

-- No anchor asks for the start of the text or of a line.
def unanchored : Pattern → Bool
  | textStart | lineStart => false
  | seq p q | alt p q => p.unanchored && q.unanchored
  | notAhead p => p.unanchored
  | nothing | char _ | many .. | wordEdge | textEnd | lineEnd => true

def mayBeEmpty : Pattern → Bool
  | char _ => false
  | many _ least _ => least = 0
  | seq p q => p.mayBeEmpty && q.mayBeEmpty
  | alt p q => p.mayBeEmpty || q.mayBeEmpty
  | nothing | wordEdge | textStart | textEnd | lineStart | lineEnd | notAhead _ => true

def mayBegin (c : Char) : Pattern → Bool
  | char set | many set _ _ => set.contains c
  | seq p q => p.mayBegin c || (p.mayBeEmpty && q.mayBegin c)
  | alt p q => p.mayBegin c || q.mayBegin c
  | nothing | wordEdge | textStart | textEnd | lineStart | lineEnd | notAhead _ => false

-- What a pattern denotes begins with a character that it may begin with.
theorem denotes_begin {p : Pattern} {blind : Bool} (marked : p.marks blind = true)
    {left piece right : Text} (inside : p.plain.Denotes blind left piece right) :
    piece = [] ∧ p.mayBeEmpty = true ∨ ∃ c rest, piece = c :: rest ∧ p.mayBegin c = true := by
  induction p generalizing left piece right with
  | nothing => exact .inl ⟨inside, rfl⟩
  | char set =>
    obtain ⟨c, single, named⟩ := inside
    exact .inr ⟨c, [], single, (CharSet.contains_iff marked c).mpr named⟩
  | seq p q hp hq =>
    simp only [marks, Bool.and_eq_true] at marked
    obtain ⟨first, second, rfl, one, two⟩ := inside
    simp only [mayBeEmpty, mayBegin, Bool.and_eq_true, Bool.or_eq_true]
    rcases hp marked.1 one with ⟨rfl, empty⟩ | ⟨c, rest, rfl, begins⟩
    · rcases hq marked.2 two with ⟨rfl, both⟩ | ⟨c, rest, rfl, begins⟩
      · exact .inl ⟨rfl, empty, both⟩
      · exact .inr ⟨c, rest, rfl, .inr ⟨empty, begins⟩⟩
    · exact .inr ⟨c, rest ++ second, rfl, .inl begins⟩
  | alt p q hp hq =>
    simp only [marks, Bool.and_eq_true] at marked
    simp only [mayBeEmpty, mayBegin, Bool.or_eq_true]
    rcases inside with one | two
    · rcases hp marked.1 one with ⟨rfl, empty⟩ | ⟨c, rest, shape, begins⟩
      · exact .inl ⟨rfl, .inl empty⟩
      · exact .inr ⟨c, rest, shape, .inl begins⟩
    · rcases hq marked.2 two with ⟨rfl, empty⟩ | ⟨c, rest, shape, begins⟩
      · exact .inl ⟨rfl, .inr empty⟩
      · exact .inr ⟨c, rest, shape, .inr begins⟩
  | many set least most =>
    obtain ⟨members, enough, -⟩ := inside
    cases piece with
    | nil => exact .inl ⟨rfl, decide_eq_true (Nat.le_zero.mp enough)⟩
    | cons c rest =>
      have member : set.contains c = true :=
        (CharSet.contains_iff marked c).mpr (members c (by simp))
      exact .inr ⟨c, rest, rfl, member⟩
  | wordEdge | textStart | textEnd | lineStart | lineEnd | notAhead => exact .inl ⟨inside.1, rfl⟩

theorem endsInWord_cons {m : Char} (other : Text.isWord m = false) (left : Text) :
    EndsInWord (m :: left) ↔ EndsInWord left := by
  constructor
  · rintro ⟨front, c, shape, letter⟩
    cases front with
    | nil =>
      obtain ⟨rfl, rfl⟩ := List.cons.inj shape
      rw [other] at letter
      cases letter
    | cons x front => exact ⟨front, c, (List.cons.inj shape).2, letter⟩
  · rintro ⟨front, c, rfl, letter⟩
    exact ⟨m :: front, c, rfl, letter⟩

-- Behind the character a pattern denotes what it denoted without it.
theorem denotes_cons {p : Pattern} {blind : Bool} (free : p.unanchored = true) {m : Char}
    (other : Text.isWord m = false) (left piece right : Text) :
    p.Denotes blind (m :: left) piece right ↔ p.Denotes blind left piece right := by
  induction p generalizing left piece right with
  | nothing | char | many | textEnd | lineEnd => rfl
  | textStart | lineStart => cases free
  | seq p q hp hq =>
    simp only [unanchored, Bool.and_eq_true] at free
    simp only [Denotes, List.cons_append, hp free.1, hq free.2]
  | alt p q hp hq =>
    simp only [unanchored, Bool.and_eq_true] at free
    simp only [Denotes, hp free.1, hq free.2]
  | wordEdge => simp only [Denotes, endsInWord_cons other]
  | notAhead p hp => simp only [Denotes, hp free]

-- The pattern has nothing to do with this character in front of it.
def overlooks (m : Char) (p : Pattern) : Bool :=
  !Text.isWord m && p.plain.unanchored && !p.mayBeEmpty && !p.mayBegin m

-- The pattern stands in the text with nothing but characters of one kind before it.
def OccursBehind (blind : Bool) (lead : Char → Prop) (p : Pattern) (text : Text) : Prop :=
  ∃ left piece right, text = left ++ piece ++ right ∧ (∀ c ∈ left, lead c) ∧
    p.Denotes blind left piece right

theorem occurs_iff_behind {p : Pattern} {blind : Bool} {text : Text} :
    p.Occurs blind text ↔ p.OccursBehind blind (fun _ => True) text := by
  simp [Occurs, OccursBehind]

theorem occursBehind_cons {p : Pattern} {blind : Bool} (marked : p.marks blind = true) {m : Char}
    (overlooked : p.overlooks m = true) {lead : Char → Prop} (leads : lead m) (text : Text) :
    p.plain.OccursBehind blind lead (m :: text) ↔ p.plain.OccursBehind blind lead text := by
  simp only [overlooks, Bool.and_eq_true, Bool.not_eq_true'] at overlooked
  obtain ⟨⟨⟨other, free⟩, filled⟩, behind⟩ := overlooked
  constructor
  · intro given
    obtain ⟨left, piece, right, cut, before, inside⟩ := given
    cases left with
    | nil =>
      -- The character would have to begin the piece.
      rcases denotes_begin marked inside with ⟨-, empty⟩ | ⟨c, rest, rfl, begins⟩
      · rw [filled] at empty
        cases empty
      · obtain ⟨rfl, -⟩ := List.cons.inj cut
        rw [behind] at begins
        cases begins
    | cons c left =>
      obtain ⟨rfl, rfl⟩ := List.cons.inj cut
      have within := (denotes_cons free other left piece right).mp inside
      exact ⟨left, piece, right, rfl, (List.forall_mem_cons.mp before).2, within⟩
  · intro given
    obtain ⟨left, piece, right, cut, before, inside⟩ := given
    subst cut
    have within := (denotes_cons free other left piece right).mpr inside
    exact ⟨m :: left, piece, right, rfl, List.forall_mem_cons.mpr ⟨leads, before⟩, within⟩

theorem occurs_cons {p : Pattern} {blind : Bool} (marked : p.marks blind = true) {m : Char}
    (overlooked : p.overlooks m = true) (text : Text) :
    p.plain.Occurs blind (m :: text) ↔ p.plain.Occurs blind text := by
  rw [occurs_iff_behind, occurs_iff_behind]
  exact occursBehind_cons marked overlooked trivial text

-- Some piece at the start of the text is in the language.
def Begins (blind : Bool) (p : Pattern) (text : Text) : Prop :=
  ∃ piece right, text = piece ++ right ∧ p.Denotes blind [] piece right

section
variable {p q : Pattern} {blind : Bool} {text : Text}

theorem occurs_textStart : (seq textStart p).Occurs blind text ↔ p.Begins blind text := by
  constructor
  · intro given
    obtain ⟨left, piece, right, cut, first, second, parts, ⟨empty, start⟩, inside⟩ := given
    subst empty start
    rw [List.nil_append] at parts inside
    exact ⟨piece, right, cut, parts ▸ inside⟩
  · intro given
    obtain ⟨piece, right, cut, inside⟩ := given
    exact ⟨[], piece, right, cut, [], piece, rfl, ⟨rfl, rfl⟩, inside⟩

theorem begins_notAhead :
    (seq (notAhead p) q).Begins blind text ↔ ¬ p.Begins blind text ∧ q.Begins blind text := by
  constructor
  · intro given
    obtain ⟨piece, right, cut, first, second, parts, ⟨empty, absent⟩, inside⟩ := given
    subst empty
    rw [List.nil_append] at parts inside
    rw [← parts, ← cut] at absent
    exact ⟨absent, piece, right, cut, parts ▸ inside⟩
  · intro given
    obtain ⟨absent, piece, right, cut, inside⟩ := given
    refine ⟨piece, right, cut, [], piece, rfl, ⟨rfl, ?_⟩, inside⟩
    rw [← cut]
    exact absent

-- A run at the start is what stands before the rest.
theorem begins_many {set : CharSet} :
    (seq (many set 0 none) p).Begins blind text ↔
      p.OccursBehind blind (set.Names blind) text := by
  constructor
  · intro given
    obtain ⟨piece, right, cut, run, second, parts, ⟨members, _⟩, inside⟩ := given
    exact ⟨run, second, right, by rw [cut, parts], members, inside⟩
  · intro given
    obtain ⟨run, second, right, cut, members, inside⟩ := given
    refine ⟨run ++ second, right, cut, run, second, rfl, ⟨members, Nat.zero_le _, ?_⟩, inside⟩
    intro limit bound
    cases bound

end

end Pattern
end PatchReview
