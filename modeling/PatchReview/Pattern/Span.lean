import PatchReview.Pattern.Basic

-- What a pattern denotes, independently of how it is matched: the spans of a text that belong to
-- it, each given by the cursors at its two ends.  Matching finds a span exactly if there is one.
namespace PatchReview

-- `stop` is `run` further than `c` in the same text.
def Cursor.Passes (c : Cursor) (run : Text) (stop : Cursor) : Prop :=
  c.after = run ++ stop.after ∧ stop.before = run.reverse ++ c.before ∧
    stop.offset = c.offset + run.length

namespace Pattern

def Spans : Pattern → Cursor → Cursor → Prop
  | nothing, c, stop => stop = c
  | char set, c, stop => ∃ x, set.contains x = true ∧ c.Passes [x] stop
  | seq p q, c, stop => ∃ middle, Spans p c middle ∧ Spans q middle stop
  | alt p q, c, stop => Spans p c stop ∨ Spans q c stop
  | many set least most, c, stop =>
    ∃ run : Text, (∀ x ∈ run, set.contains x = true) ∧ least ≤ run.length ∧
      (∀ limit, most = .some limit → run.length ≤ limit) ∧ c.Passes run stop
  | wordEdge, c, stop => stop = c ∧ c.atWordEdge = true
  | textStart, c, stop => stop = c ∧ c.atTextStart = true
  | textEnd, c, stop => stop = c ∧ c.atTextEnd = true
  | lineStart, c, stop => stop = c ∧ c.atLineStart = true
  | lineEnd, c, stop => stop = c ∧ c.atLineEnd = true
  | notAhead p, c, stop => stop = c ∧ ¬ ∃ ahead, Spans p c ahead

-- Some span of the text belongs to the pattern.
def HasSpan (p : Pattern) (text : Text) : Prop :=
  ∃ left right stop, text = left ++ right ∧ p.Spans ⟨left.reverse, right, left.length⟩ stop

theorem passes_nil {c stop : Cursor} : c.Passes [] stop ↔ stop = c := by
  cases c
  cases stop
  simp [Cursor.Passes, and_comm, and_left_comm, and_assoc, eq_comm]

theorem passes_cons {before after run : Text} {offset : Nat} {x : Char} {stop : Cursor} :
    Cursor.Passes ⟨before, after, offset⟩ (x :: run) stop ↔
      ∃ rest, after = x :: rest ∧ Cursor.Passes ⟨x :: before, rest, offset + 1⟩ run stop := by
  constructor
  · rintro ⟨same, behind, further⟩
    refine ⟨_, same, rfl, by simpa using behind, ?_⟩
    simpa [Nat.add_assoc, Nat.add_comm 1] using further
  · rintro ⟨rest, rfl, same, behind, further⟩
    refine ⟨congrArg (x :: ·) same, by simpa using behind, ?_⟩
    simpa [Nat.add_assoc, Nat.add_comm 1] using further

-- A run ends here if it may, or takes one more character if there may be one.
theorem many_spans {set : CharSet} {least : Nat} {most : Option Nat} {before after : Text}
    {offset : Nat} {stop : Cursor} :
    (many set least most).Spans ⟨before, after, offset⟩ stop ↔
      (least = 0 ∧ stop = ⟨before, after, offset⟩) ∨
        ∃ x rest, after = x :: rest ∧ set.contains x = true ∧ most ≠ .some 0 ∧
          (many set (least - 1) (most.map (· - 1))).Spans ⟨x :: before, rest, offset + 1⟩ stop := by
  constructor
  · rintro ⟨run, inside, enough, short, passed⟩
    cases run with
    | nil => exact .inl ⟨by simpa using enough, passes_nil.mp passed⟩
    | cons x run =>
      obtain ⟨rest, same, passed⟩ := passes_cons.mp passed
      refine .inr ⟨x, rest, same, inside x (by simp), ?_, run, ?_, ?_, ?_, passed⟩
      · intro zero
        simpa using short 0 zero
      · intro y member
        exact inside y (by simp [member])
      · simp only [List.length_cons] at enough
        omega
      · intro limit bound
        cases most with
        | none => simp at bound
        | some m =>
          have := short m rfl
          simp only [Option.map_some, Option.some.injEq, List.length_cons] at bound this
          omega
  · rintro (⟨rfl, rfl⟩ | ⟨x, rest, rfl, member, positive, run, inside, enough, short, passed⟩)
    · exact ⟨[], by simp, by simp, by simp, passes_nil.mpr rfl⟩
    · refine ⟨x :: run, ?_, ?_, ?_, passes_cons.mpr ⟨rest, rfl, passed⟩⟩
      · simpa [member] using inside
      · simp only [List.length_cons]
        omega
      · rintro limit rfl
        have := short (limit - 1) rfl
        have : limit ≠ 0 := fun zero => positive (by rw [zero])
        simp only [List.length_cons]
        omega

theorem isSome_orElse {α : Type} (first : Option α) (second : Unit → Option α) :
    (first.orElse second).isSome = true ↔ first.isSome = true ∨ (second ()).isSome = true := by
  cases first with
  | none =>
    change (second ()).isSome = true ↔ _
    simp
  | some a => exact ⟨fun _ => .inl rfl, fun _ => rfl⟩

theorem isSome_ite {α : Type} (p : Prop) [Decidable p] (a : Option α) :
    (if p then a else none).isSome = true ↔ p ∧ a.isSome = true := by
  split <;> simp_all

theorem tryRun_cons {α : Type} (set : CharSet) (least : Nat) (most : Option Nat) (before : Text)
    (c : Char) (rest : Text) (offset : Nat) (next : Cursor → Option α) :
    tryRun set least most before (c :: rest) offset next =
      if set.contains c ∧ most ≠ .some 0 then
        (tryRun set (least - 1) (most.map (· - 1)) (c :: before) rest (offset + 1) next).orElse
          fun _ => if least = 0 then next ⟨before, c :: rest, offset⟩ else none
      else if least = 0 then next ⟨before, c :: rest, offset⟩ else none := rfl

theorem tryRun_isSome {α : Type} (set : CharSet) (least : Nat) (most : Option Nat)
    (before after : Text) (offset : Nat) (next : Cursor → Option α) :
    (tryRun set least most before after offset next).isSome = true ↔
      ∃ stop, (many set least most).Spans ⟨before, after, offset⟩ stop ∧
        (next stop).isSome = true := by
  induction after generalizing least most before offset with
  | nil =>
    unfold tryRun
    simp only [isSome_ite]
    constructor
    · rintro ⟨zero, found⟩
      exact ⟨_, many_spans.mpr (.inl ⟨zero, rfl⟩), found⟩
    · rintro ⟨stop, span, found⟩
      rcases many_spans.mp span with ⟨zero, rfl⟩ | ⟨x, rest, same, _⟩
      · exact ⟨zero, found⟩
      · simp at same
  | cons c rest ih =>
    have further := ih (least - 1) (most.map (· - 1)) (c :: before) (offset + 1)
    rw [tryRun_cons]
    by_cases more : set.contains c = true ∧ most ≠ .some 0
    · rw [if_pos more, isSome_orElse, further, isSome_ite]
      constructor
      · rintro (⟨stop, span, found⟩ | ⟨zero, found⟩)
        · exact ⟨stop, many_spans.mpr (.inr ⟨c, rest, rfl, more.1, more.2, span⟩), found⟩
        · exact ⟨_, many_spans.mpr (.inl ⟨zero, rfl⟩), found⟩
      · rintro ⟨stop, span, found⟩
        rcases many_spans.mp span with ⟨zero, rfl⟩ | ⟨x, rest', same, _, _, span⟩
        · exact .inr ⟨zero, found⟩
        · obtain ⟨rfl, rfl⟩ := List.cons.inj same
          exact .inl ⟨stop, span, found⟩
    · rw [if_neg more, isSome_ite]
      constructor
      · rintro ⟨zero, found⟩
        exact ⟨_, many_spans.mpr (.inl ⟨zero, rfl⟩), found⟩
      · rintro ⟨stop, span, found⟩
        rcases many_spans.mp span with ⟨zero, rfl⟩ | ⟨x, rest', same, member, positive, _⟩
        · exact ⟨zero, found⟩
        · obtain ⟨rfl, rfl⟩ := List.cons.inj same
          exact absurd ⟨member, positive⟩ more

-- A condition on a position is a span without length.
theorem exists_here {c : Cursor} {p : Prop} {q : Cursor → Prop} :
    (∃ stop, (stop = c ∧ p) ∧ q stop) ↔ p ∧ q c := by
  constructor
  · rintro ⟨_, ⟨rfl, holds⟩, found⟩
    exact ⟨holds, found⟩
  · rintro ⟨holds, found⟩
    exact ⟨c, ⟨rfl, holds⟩, found⟩

theorem tryAt_isSome (p : Pattern) {α : Type} (c : Cursor) (next : Cursor → Option α) :
    (p.tryAt c next).isSome = true ↔ ∃ stop, p.Spans c stop ∧ (next stop).isSome = true := by
  induction p generalizing α c with
  | nothing => simp [tryAt, Spans]
  | char set =>
    obtain ⟨before, after, offset⟩ := c
    cases after with
    | nil => simp [tryAt, Spans, passes_cons]
    | cons x rest =>
      simp only [tryAt, Spans, isSome_ite]
      constructor
      · rintro ⟨member, found⟩
        exact ⟨_, ⟨x, member, passes_cons.mpr ⟨rest, rfl, passes_nil.mpr rfl⟩⟩, found⟩
      · rintro ⟨stop, ⟨y, member, passed⟩, found⟩
        obtain ⟨rest', same, passed⟩ := passes_cons.mp passed
        obtain ⟨rfl, rfl⟩ := List.cons.inj same
        exact ⟨member, passes_nil.mp passed ▸ found⟩
  | seq p q hp hq =>
    simp only [tryAt, hp, hq, Spans]
    constructor
    · rintro ⟨middle, first, stop, second, found⟩
      exact ⟨stop, ⟨middle, first, second⟩, found⟩
    · rintro ⟨stop, ⟨middle, first, second⟩, found⟩
      exact ⟨middle, first, stop, second, found⟩
  | alt p q hp hq =>
    simp only [tryAt, isSome_orElse, hp, hq, Spans, or_and_right, exists_or]
  | many set least most => exact tryRun_isSome set least most c.before c.after c.offset next
  | wordEdge => simp only [tryAt, Spans, isSome_ite, exists_here]
  | textStart => simp only [tryAt, Spans, isSome_ite, exists_here]
  | textEnd => simp only [tryAt, Spans, isSome_ite, exists_here]
  | lineStart => simp only [tryAt, Spans, isSome_ite, exists_here]
  | lineEnd => simp only [tryAt, Spans, isSome_ite, exists_here]
  | notAhead p hp =>
    have ahead := hp c Option.some
    simp only [Option.isSome_some, and_true] at ahead
    simp only [tryAt, Spans, ← ahead]
    simp only [exists_here]
    by_cases found : (p.tryAt c Option.some).isSome = true <;> simp [found]

-- A run that stops at once.
theorem exists_spans_here {α : Type} {set : CharSet} {least : Nat} {most : Option Nat} {c : Cursor}
    {next : Cursor → Option α} {a : α} (found : (if least = 0 then next c else none) = .some a) :
    ∃ stop, (many set least most).Spans c stop ∧ next stop = .some a := by
  split at found
  · rename_i zero
    exact ⟨c, many_spans.mpr (.inl ⟨zero, rfl⟩), found⟩
  · cases found

theorem exists_spans_of_tryRun {α : Type} {set : CharSet} {least : Nat} {most : Option Nat}
    {before after : Text} {offset : Nat} {next : Cursor → Option α} {a : α}
    (found : tryRun set least most before after offset next = .some a) :
    ∃ stop, (many set least most).Spans ⟨before, after, offset⟩ stop ∧ next stop = .some a := by
  induction after generalizing least most before offset with
  | nil =>
    unfold tryRun at found
    exact exists_spans_here found
  | cons c rest ih =>
    rw [tryRun_cons] at found
    split at found
    · rename_i more
      cases further : tryRun set (least - 1) (most.map (· - 1)) (c :: before) rest (offset + 1)
          next with
      | none =>
        rw [further] at found
        exact exists_spans_here found
      | some b =>
        rw [further] at found
        cases found
        obtain ⟨stop, span, accepted⟩ := ih further
        exact ⟨stop, many_spans.mpr (.inr ⟨c, rest, rfl, more.1, more.2, span⟩), accepted⟩
    · exact exists_spans_here found

-- What a search gives comes from the end of some span.
theorem exists_spans_of_tryAt {p : Pattern} {α : Type} {c : Cursor} {next : Cursor → Option α}
    {a : α} (found : p.tryAt c next = .some a) : ∃ stop, p.Spans c stop ∧ next stop = .some a := by
  induction p generalizing α c with
  | nothing => exact ⟨c, rfl, found⟩
  | char set =>
    obtain ⟨before, after, offset⟩ := c
    unfold tryAt at found
    cases after with
    | nil => cases found
    | cons x rest =>
      dsimp only at found
      split at found
      · rename_i member
        exact ⟨_, ⟨x, member, passes_cons.mpr ⟨rest, rfl, passes_nil.mpr rfl⟩⟩, found⟩
      · cases found
  | seq p q hp hq =>
    unfold tryAt at found
    obtain ⟨middle, first, found⟩ := hp found
    obtain ⟨stop, second, accepted⟩ := hq found
    exact ⟨stop, ⟨middle, first, second⟩, accepted⟩
  | alt p q hp hq =>
    unfold tryAt at found
    cases left : p.tryAt c next with
    | none =>
      rw [left] at found
      obtain ⟨stop, span, accepted⟩ := hq found
      exact ⟨stop, .inr span, accepted⟩
    | some b =>
      rw [left] at found
      cases found
      obtain ⟨stop, span, accepted⟩ := hp left
      exact ⟨stop, .inl span, accepted⟩
  | many set least most => exact exists_spans_of_tryRun found
  | wordEdge | textStart | textEnd | lineStart | lineEnd =>
    unfold tryAt at found
    split at found
    · rename_i here
      exact ⟨c, ⟨rfl, here⟩, found⟩
    · cases found
  | notAhead p hp =>
    unfold tryAt at found
    split at found
    · cases found
    · rename_i none
      refine ⟨c, ⟨rfl, ?_⟩, found⟩
      intro ahead
      apply none
      rw [tryAt_isSome]
      obtain ⟨stop, span⟩ := ahead
      exact ⟨stop, span, rfl⟩

theorem endAt?_isSome (p : Pattern) (c : Cursor) :
    (p.endAt? c).isSome = true ↔ ∃ stop, p.Spans c stop := by
  simp [endAt?, tryAt_isSome]

theorem foundFrom_iff (p : Pattern) (before text : Text) (offset : Nat) :
    p.foundFrom before offset text = true ↔
      ∃ left right stop, text = left ++ right ∧
        p.Spans ⟨left.reverse ++ before, right, offset + left.length⟩ stop := by
  induction text generalizing before offset with
  | nil =>
    simp only [foundFrom, endAt?_isSome]
    constructor
    · rintro ⟨stop, span⟩
      exact ⟨[], [], stop, rfl, span⟩
    · rintro ⟨left, right, stop, same, span⟩
      obtain ⟨rfl, rfl⟩ := List.append_eq_nil_iff.mp same.symm
      exact ⟨stop, span⟩
  | cons c rest ih =>
    simp only [foundFrom, Bool.or_eq_true, endAt?_isSome, ih]
    constructor
    · rintro (⟨stop, span⟩ | ⟨left, right, stop, rfl, span⟩)
      · exact ⟨[], _, stop, rfl, span⟩
      · exact ⟨c :: left, right, stop, rfl, by simpa [Nat.add_assoc, Nat.add_comm 1] using span⟩
    · rintro ⟨left, right, stop, same, span⟩
      cases left with
      | nil =>
        obtain rfl : c :: rest = right := same
        exact .inl ⟨stop, span⟩
      | cons x left =>
        obtain ⟨rfl, rfl⟩ : c = x ∧ rest = left ++ right := by simpa using same
        exact .inr ⟨left, right, stop, rfl, by simpa [Nat.add_assoc, Nat.add_comm 1] using span⟩

theorem foundIn_iff (p : Pattern) (text : Text) : p.foundIn text = true ↔ p.HasSpan text := by
  simp [foundIn, foundFrom_iff, HasSpan]

end Pattern
end PatchReview
