import PatchReview.Pattern.Span

-- The order in which a run is tried.  A run takes as many characters as it can, and gives them back
-- only if what follows cannot go on from there.
namespace PatchReview.Pattern

theorem tryRun_longest {α : Type} {set : CharSet} {run rest : Text}
    (inside : ∀ x ∈ run, set.contains x = true) (ends : ∀ x ∈ rest.head?, set.contains x = false)
    {least : Nat} (enough : least ≤ run.length) {next : Cursor → Option α} (before : Text)
    (offset : Nat)
    (accepted : (next ⟨run.reverse ++ before, rest, offset + run.length⟩).isSome = true) :
    tryRun set least none before (run ++ rest) offset next =
      next ⟨run.reverse ++ before, rest, offset + run.length⟩ := by
  induction run generalizing least before offset with
  | nil =>
    rw [Nat.le_zero.mp enough]
    cases rest with
    | nil => rfl
    | cons x rest =>
      rw [List.nil_append, tryRun_cons]
      simp [ends x rfl]
  | cons x run ih =>
    obtain ⟨member, later⟩ := List.forall_mem_cons.mp inside
    have moved : (⟨(x :: run).reverse ++ before, rest, offset + (x :: run).length⟩ : Cursor) =
        ⟨run.reverse ++ x :: before, rest, offset + 1 + run.length⟩ := by
      simp [Nat.add_assoc, Nat.add_comm 1]
    rw [moved] at accepted ⊢
    obtain ⟨found, reached⟩ := Option.isSome_iff_exists.mp accepted
    have fewer : least - 1 ≤ run.length := Nat.sub_le_of_le_add enough
    rw [List.cons_append, tryRun_cons, if_pos ⟨member, nofun⟩, Option.map_none,
      ih later fewer _ _ accepted, reached]
    rfl

-- From the end of the longest run the search goes on, if it gets anywhere from there.
theorem tryAt_longest {α : Type} {set : CharSet} {c stop : Cursor} {run : Text}
    (passed : c.Passes run stop) (inside : ∀ x ∈ run, set.contains x = true)
    (ends : ∀ x ∈ stop.after.head?, set.contains x = false) {next : Cursor → Option α}
    (accepted : (next stop).isSome = true) : (any set).tryAt c next = next stop := by
  obtain ⟨before, after, offset⟩ := c
  obtain ⟨behind, rest, place⟩ := stop
  obtain ⟨ahead, past, further⟩ := passed
  dsimp only at ahead past further
  subst ahead past further
  exact tryRun_longest inside ends (Nat.zero_le _) before offset accepted

theorem tryAt_seqs {α : Type} (first second : List Pattern) (c : Cursor)
    (next : Cursor → Option α) :
    (seqs (first ++ second)).tryAt c next =
      (seqs first).tryAt c fun middle => (seqs second).tryAt middle next := by
  induction first generalizing c with
  | nil => rfl
  | cons p first ih =>
    exact congrArg (p.tryAt c) (funext ih)

theorem tryAt_exactly {α : Type} (word before rest : Text) (offset : Nat)
    (next : Cursor → Option α) :
    (exactly word).tryAt ⟨before, word ++ rest, offset⟩ next =
      next ⟨word.reverse ++ before, rest, offset + word.length⟩ := by
  induction word generalizing before offset with
  | nil => rfl
  | cons x word ih =>
    have enters : (CharSet.oneOf [x]).contains x = true := by simp [CharSet.contains]
    have moved : (⟨(x :: word).reverse ++ before, rest, offset + (x :: word).length⟩ : Cursor) =
        ⟨word.reverse ++ x :: before, rest, offset + 1 + word.length⟩ := by
      simp [Nat.add_assoc, Nat.add_comm 1]
    rw [moved, ← ih]
    exact if_pos enters

theorem spans_exactly {word : Text} {c stop : Cursor} :
    (exactly word).Spans c stop ↔ c.Passes word stop := by
  induction word generalizing c with
  | nil => exact passes_nil.symm
  | cons x word ih =>
    obtain ⟨before, after, offset⟩ := c
    rw [passes_cons]
    constructor
    · intro given
      obtain ⟨middle, ⟨y, same, passed⟩, more⟩ := given
      obtain rfl : y = x := by simpa [CharSet.contains] using same
      obtain ⟨rest, first, here⟩ := passes_cons.mp passed
      rw [passes_nil.mp here] at more
      exact ⟨rest, first, ih.mp more⟩
    · intro given
      obtain ⟨rest, first, passed⟩ := given
      refine ⟨_, ⟨x, by simp [CharSet.contains], ?_⟩, ih.mpr passed⟩
      exact passes_cons.mpr ⟨rest, first, passes_nil.mpr rfl⟩

end PatchReview.Pattern
