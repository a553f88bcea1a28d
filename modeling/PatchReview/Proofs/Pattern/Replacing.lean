import PatchReview.Proofs.Pattern.InLine
import PatchReview.Proofs.Pattern.Longest

-- Replacing each match by the part that it singles out.  What is done to a text is told by the
-- matches alone: characters stay one by one, and of a match only the part between its two ends
-- stays.
namespace PatchReview

theorem Cursor.Passes.unique {c stop : Cursor} {one two : Text} (first : c.Passes one stop)
    (second : c.Passes two stop) : one = two :=
  first.upTo.symm.trans second.upTo

namespace Capture

-- A match: what is in front of the part that stays, the part, and what is behind it.
def IsMatch (p : Capture) (front body back : Text) : Prop :=
  ∃ start bodyStart bodyEnd stop, (p.lead.Spans start bodyStart ∧ start.Passes front bodyStart) ∧
    (p.body.Spans bodyStart bodyEnd ∧ bodyStart.Passes body bodyEnd) ∧
    (p.tail.Spans bodyEnd stop ∧ bodyEnd.Passes back stop)

inductive Replaces (p : Capture) : Text → Text → Prop
  | nil : Replaces p [] []
  | keep {c : Char} {text left : Text} (rest : Replaces p text left) :
    Replaces p (c :: text) (c :: left)
  | drop {front body back text left : Text} (found : p.IsMatch front body back)
      (rest : Replaces p text left) : Replaces p (front ++ body ++ back ++ text) (body ++ left)

section
variable {p : Capture} {found : Found} {run rest : Text}

theorem taken?_match {c : Cursor} (taken : p.taken? c = some found) :
    ∃ front back, p.IsMatch front found.text back ∧
      c.after = front ++ found.text ++ back ++ found.stop.after ∧
      found.width = (front ++ found.text ++ back).length ∧ 0 < found.width := by
  obtain ⟨matched, wide⟩ := Option.filter_eq_some_iff.mp taken
  obtain ⟨here, lead, body, tail⟩ := at?_spans matched
  obtain ⟨front, leading⟩ := lead.passes
  obtain ⟨part, staying⟩ := body.passes
  obtain ⟨back, trailing⟩ := tail.passes
  have text : found.text = part := staying.upTo
  have whole := Pattern.passes_trans (Pattern.passes_trans leading staying) trailing
  rw [text]
  refine ⟨front, back, ⟨c, _, _, _, ⟨lead, leading⟩, ⟨body, staying⟩, tail, trailing⟩, whole.1, ?_,
    of_decide_eq_true wide⟩
  rw [Found.width, here, whole.2.2, Nat.add_sub_cancel_left]

theorem at?_isSome {c : Cursor} : (p.at? c).isSome = true ↔
    ∃ bodyStart bodyEnd stop, p.lead.Spans c bodyStart ∧ p.body.Spans bodyStart bodyEnd ∧
      p.tail.Spans bodyEnd stop := by
  simp [at?, Pattern.tryAt_isSome]

-- The rest of a match is passed over.
theorem keepFrom_skip (p : Capture) (before : Text) (offset : Nat) (run rest : Text) :
    p.keepFrom run.length before offset (run ++ rest) =
      p.keepFrom 0 (run.reverse ++ before) (offset + run.length) rest := by
  induction run generalizing before offset with
  | nil => rfl
  | cons c run ih =>
    rw [List.length_cons, List.cons_append, keepFrom, ih, List.reverse_cons, List.append_assoc,
      Nat.add_assoc, Nat.add_comm 1]
    rfl

theorem keepFrom_taken {before : Text} {offset : Nat}
    (taken : p.taken? ⟨before, run ++ rest, offset⟩ = some found)
    (wide : found.width = run.length) :
    p.keepFrom 0 before offset (run ++ rest) =
      found.text ++ p.keepFrom 0 (run.reverse ++ before) (offset + run.length) rest := by
  obtain ⟨-, -, -, -, -, positive⟩ := taken?_match taken
  cases run with
  | nil => exact absurd wide (Nat.ne_of_gt positive)
  | cons c run =>
    rw [List.cons_append] at taken ⊢
    rw [keepFrom, taken]
    dsimp only
    rw [wide, List.length_cons, Nat.add_sub_cancel, keepFrom_skip, List.reverse_cons,
      List.append_assoc, Nat.add_assoc, Nat.add_comm 1]
    rfl

theorem keepFrom_passed {before : Text} {offset : Nat} {c : Char}
    (none : p.taken? ⟨before, c :: rest, offset⟩ = none) :
    p.keepFrom 0 before offset (c :: rest) =
      c :: p.keepFrom 0 (c :: before) (offset + 1) rest := by
  rw [keepFrom, none]

theorem replaces_keepFrom (p : Capture) (before : Text) (offset : Nat) (text : Text) :
    p.Replaces text (p.keepFrom 0 before offset text) := by
  -- A match takes at least one character, and the text after it is shorter.
  induction length : text.length using Nat.strongRecOn generalizing before offset text with
  | ind n ih =>
    cases text with
    | nil => exact .nil
    | cons c rest =>
      cases taken : p.taken? ⟨before, c :: rest, offset⟩ with
      | none =>
        rw [keepFrom_passed taken]
        exact .keep (ih rest.length (by simp [← length]) _ _ rest rfl)
      | some found =>
        obtain ⟨front, back, matched, ahead, wide, positive⟩ := taken?_match taken
        dsimp only at ahead
        rw [ahead] at taken length ⊢
        rw [keepFrom_taken taken wide]
        refine .drop matched (ih _ ?_ _ _ _ rfl)
        rw [← length, List.length_append]
        omega

theorem replaces_keepBodies (p : Capture) (text : Text) : p.Replaces text (p.keepBodies text) :=
  replaces_keepFrom p [] 0 text

end

namespace Replaces

variable {p : Capture} {text left : Text}

theorem sublist (replaced : p.Replaces text left) : left.Sublist text := by
  induction replaced with
  | nil => exact List.Sublist.refl []
  | keep _ ih => exact ih.cons_cons _
  | @drop front body back text left _ _ ih =>
    have behind := ih.trans (List.sublist_append_right back text)
    rw [List.append_assoc, List.append_assoc]
    exact List.sublist_append_of_sublist_right (behind.append_left body)

-- Where all that is left out is of one kind, everything of another kind stays, in order.
theorem filter_eq {kind : Char → Prop} {kept : Char → Bool} (replaced : p.Replaces text left)
    (lead : p.lead.takesOnly kind) (tail : p.tail.takesOnly kind)
    (other : ∀ c, kind c → kept c = false) : left.filter kept = text.filter kept := by
  have gone {run : Text} (only : ∀ c ∈ run, kind c) : run.filter kept = [] :=
    List.filter_eq_nil_iff.mpr fun c member => by simp [other c (only c member)]
  induction replaced with
  | nil => rfl
  | keep _ ih => rw [List.filter_cons, List.filter_cons, ih]
  | drop found _ ih =>
    obtain ⟨_, _, _, _, ⟨leading, front⟩, -, trailing, back⟩ := found
    obtain ⟨run, passed, ahead⟩ := leading.passes_only lead
    obtain ⟨more, further, behind⟩ := trailing.passes_only tail
    rw [front.unique passed, back.unique further]
    simp only [List.filter_append, gone ahead, gone behind, ih, List.nil_append, List.append_nil]

-- A match takes the character that every match begins with, so fewer of it are left.
theorem fewer {c : Char} (replaced : p.Replaces text left)
    (needs : ∀ front body back, p.IsMatch front body back → c ∈ front) :
    left = text ∨ left.count c < text.count c := by
  induction replaced with
  | nil => exact .inl rfl
  | keep _ ih =>
    rw [List.count_cons, List.count_cons]
    exact ih.imp (congrArg _) (Nat.add_lt_add_right · _)
  | @drop front body back text left found rest _ =>
    have taken : 0 < front.count c := List.count_pos_iff.mpr (needs _ _ _ found)
    have behind : left.count c ≤ text.count c := rest.sublist.count_le c
    right
    simp only [List.count_append]
    omega

-- A text without that character has no match.
theorem eq_self {c : Char} (replaced : p.Replaces text left)
    (needs : ∀ front body back, p.IsMatch front body back → c ∈ front) (lacks : c ∉ text) :
    left = text := by
  rcases replaced.fewer needs with same | less
  · exact same
  · rw [List.count_eq_zero.mpr lacks] at less
    cases less

end Replaces

section
variable {p : Capture} {before text : Text} {offset : Nat}

-- Where no position starts a match, nothing is replaced.
theorem keepFrom_untaken
    (untaken : ∀ front c back, text = front ++ c :: back →
      p.taken? ⟨front.reverse ++ before, c :: back, offset + front.length⟩ = none) :
    p.keepFrom 0 before offset text = text := by
  induction text generalizing before offset with
  | nil => rfl
  | cons c rest ih =>
    have first : p.taken? ⟨before, c :: rest, offset⟩ = none := untaken [] c rest rfl
    rw [keepFrom_passed first, ih]
    intro front x back shape
    have later := untaken (c :: front) x back (congrArg (c :: ·) shape)
    simpa [Nat.add_assoc, Nat.add_comm 1] using later

-- A match of which nothing stays makes the text shorter.
theorem keepFrom_ne {found : Found} (gone : p.body = .nothing)
    (taken : p.taken? ⟨before, text, offset⟩ = some found) :
    p.keepFrom 0 before offset text ≠ text := by
  obtain ⟨front, back, matched, ahead, wide, positive⟩ := taken?_match taken
  obtain ⟨_, bodyStart, bodyEnd, _, -, ⟨body, passed⟩, -⟩ := matched
  rw [gone] at body
  have nothing : found.text = [] := passed.unique (Pattern.passes_nil.mpr body)
  dsimp only at ahead
  rw [ahead] at taken ⊢
  rw [keepFrom_taken taken wide, nothing, List.nil_append]
  intro kept
  have shorter := (replaces_keepFrom p ((front ++ found.text ++ back).reverse ++ before)
    (offset + (front ++ found.text ++ back).length) found.stop.after).sublist.length_le
  rw [nothing] at wide shorter
  rw [kept, List.length_append, ← wide] at shorter
  omega

theorem taken?_of_kept (gone : p.body = .nothing) (kept : p.keepFrom 0 before offset text = text)
    {front back : Text} {c : Char} (shape : text = front ++ c :: back) :
    p.taken? ⟨front.reverse ++ before, c :: back, offset + front.length⟩ = none := by
  induction front generalizing before offset text with
  | nil =>
    rw [shape] at kept
    exact Option.eq_none_iff_forall_ne_some.mpr fun _ taken => keepFrom_ne gone taken kept
  | cons x front ih =>
    rw [shape, List.cons_append] at kept
    have untaken : p.taken? ⟨before, x :: (front ++ c :: back), offset⟩ = none :=
      Option.eq_none_iff_forall_ne_some.mpr fun _ taken => keepFrom_ne gone taken kept
    rw [keepFrom_passed untaken] at kept
    have later := ih (List.cons.inj kept).2 rfl
    simpa [Nat.add_assoc, Nat.add_comm 1] using later

end

end Capture
end PatchReview
