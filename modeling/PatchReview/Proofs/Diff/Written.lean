import PatchReview.Diff.Changes
import PatchReview.Proofs.Text.Marked
import PatchReview.Proofs.Text.Numeral

-- Hunks as they are printed, row by row.  A row starts with the mark of its kind and a header with
-- a mark of no kind, so the rows of a kind are counted by the first characters of the lines; and no
-- file that has a hunk prints nothing.
namespace PatchReview.Diff

-- One row, without the line feed that may end it.  A gap is a row without a mark and has no text.
def IsRow (kind : LineKind) (row : Text) : Prop := '\n' ∉ row ∧ row.head? = kind.mark.head?

namespace HunkLine

-- The line prints as one row that a line feed ends.
def Ended (l : HunkLine) : Prop := ∃ row, l.written = row ++ ['\n'] ∧ IsRow l.kind row

-- The line prints as one row, which ends where the diff ended.
def Open (l : HunkLine) : Prop := IsRow l.kind l.written

theorem Ended.text {l : HunkLine} (ended : l.Ended) : Text.Ended l.written := by
  obtain ⟨row, shape, -⟩ := ended
  exact .inr ⟨row, shape⟩

end HunkLine

theorem mark_inj {one two : LineKind} (same : one.mark.head? = two.mark.head?) : one = two := by
  revert same
  cases one <;> cases two <;> decide

section
variable {kind : LineKind} {mark : Char} (said : kind.mark = [mark])
include said

theorem mark_head_iff (other : LineKind) : other.mark.head? = some mark ↔ other = kind := by
  have own : kind.mark.head? = some mark := by
    rw [said]
    rfl
  constructor
  · intro same
    exact mark_inj (same.trans own.symm)
  · rintro rfl
    exact own

theorem mark_ne_at : mark ≠ '@' := by
  rintro rfl
  revert said
  cases kind <;> decide

theorem markedLines_open {l : HunkLine} (opened : l.Open) :
    Text.markedLines mark l.written = if l.kind = kind then 1 else 0 := by
  rw [Text.markedLines_line mark opened.1, opened.2]
  simp only [mark_head_iff said]

theorem markedLines_ended {lines : List HunkLine} (ended : ∀ l ∈ lines, l.Ended) :
    Text.markedLines mark (lines.flatMap HunkLine.written) = lines.countP (·.kind = kind) := by
  induction lines with
  | nil => rfl
  | cons l rest ih =>
    obtain ⟨own, later⟩ := List.forall_mem_cons.mp ended
    have text := own.text
    obtain ⟨row, shape, inside, head⟩ := own
    rw [List.flatMap_cons, Text.markedLines_append mark text, ih later, shape,
      Text.markedLines_row mark inside, head, List.countP_cons, Nat.add_comm]
    simp only [mark_head_iff said, decide_eq_true_eq]

end

namespace Hunk
variable {h : Hunk}

theorem exists_header (heading : '\n' ∉ h.heading) :
    ∃ row, h.header = row ++ ['\n'] ∧ '\n' ∉ row ∧ row.head? = some '@' := by
  have range (r : Range) : '\n' ∉ r.written := by
    simp [Range.written, Text.newline_ofNat]
  have title : '\n' ∉ (if h.heading.isEmpty then [] else ' ' :: h.heading : Text) := by
    split
    · exact List.not_mem_nil
    · simp [heading]
  refine ⟨_, rfl, ?_, rfl⟩
  simp only [List.mem_append, not_or]
  exact ⟨⟨⟨⟨⟨by decide, range _⟩, by decide⟩, range _⟩, by decide⟩, title⟩

-- The hunk was read to its end, and every row of it with its line feed.
structure Whole (h : Hunk) : Prop where
  heading : '\n' ∉ h.heading
  lines : ∀ l ∈ h.lines, l.Ended

-- The last row of the hunk is the last of the diff.
structure Last (h : Hunk) : Prop where
  heading : '\n' ∉ h.heading
  lines : ∃ front last, h.lines = front ++ [last] ∧ (∀ l ∈ front, l.Ended) ∧ last.Open

-- The rows of each kind are the lines that start with its mark.
def Counted (h : Hunk) : Prop :=
  ∀ kind mark, kind.mark = [mark] → Text.markedLines mark h.written = h.count kind

theorem counted_of_lines (heading : '\n' ∉ h.heading)
    (lines : ∀ kind mark, kind.mark = [mark] →
      Text.markedLines mark (h.lines.flatMap HunkLine.written) = h.lines.countP (·.kind = kind)) :
    h.Counted := by
  intro kind mark said
  obtain ⟨row, shape, inside, head⟩ := exists_header heading
  have other : row.head? ≠ some mark := by
    rw [head]
    exact fun same => mark_ne_at said (Option.some.inj same).symm
  rw [written, shape, Text.markedLines_append mark (.inr ⟨row, rfl⟩),
    Text.markedLines_row mark inside, if_neg other, lines kind mark said, Nat.zero_add, count,
    List.countP_eq_length_filter]

theorem Whole.counted (whole : h.Whole) : h.Counted :=
  counted_of_lines whole.heading fun _ _ said => markedLines_ended said whole.lines

theorem Last.counted (last : h.Last) : h.Counted := by
  apply counted_of_lines last.heading
  intro kind mark said
  obtain ⟨front, line, shape, ended, opened⟩ := last.lines
  have text : Text.Ended (front.flatMap HunkLine.written) :=
    .flatMap fun l member => (ended l member).text
  rw [shape, List.flatMap_append, Text.markedLines_append mark text, markedLines_ended said ended,
    List.flatMap_singleton, markedLines_open said opened, List.countP_append, List.countP_singleton]
  simp only [decide_eq_true_eq]

theorem Whole.text (whole : h.Whole) : Text.Ended h.written := by
  obtain ⟨row, shape, -⟩ := exists_header whole.heading
  exact .append (.inr ⟨row, shape⟩) (.flatMap fun l member => (whole.lines l member).text)

end Hunk

namespace FilePatch
variable {f : FilePatch}

def Whole (f : FilePatch) : Prop := ∀ h ∈ f.hunks, h.Whole

-- The rows of each kind are the lines of the patch that start with its mark.
def Counted (f : FilePatch) : Prop :=
  ∀ kind mark, kind.mark = [mark] → Text.markedLines mark f.patchText = f.count kind

theorem Whole.text (whole : f.Whole) : Text.Ended (f.hunks.flatMap Hunk.written) :=
  .flatMap fun h member => (whole h member).text

theorem Whole.counted (whole : f.Whole) : f.Counted := by
  intro kind mark said
  have each : f.hunks.map (fun h => Text.markedLines mark h.written) =
      f.hunks.map (Hunk.count kind) :=
    List.map_congr_left fun h member => (whole h member).counted kind mark said
  rw [patchText, Text.markedLines_dropEnd,
    Text.markedLines_flatMap mark fun h member => (whole h member).text, each]
  rfl

theorem Whole.counted_addHunk (whole : f.Whole) {h : Hunk} (counted : h.Counted) :
    (f.addHunk h).Counted := by
  intro kind mark said
  have before := whole.counted kind mark said
  rw [patchText, Text.markedLines_dropEnd] at before ⊢
  have total : (f.addHunk h).count kind = f.count kind + h.count kind := by
    have sum (f : FilePatch) : f.count kind = (f.hunks.map (Hunk.count kind)).sum := rfl
    simp [sum, addHunk]
  rw [total, addHunk, List.flatMap_append, Text.markedLines_append mark whole.text, before,
    List.flatMap_singleton, counted kind mark said]

theorem patchText_eq_nil_iff : f.patchText = [] ↔ f.hunks = [] := by
  rw [patchText, Text.dropEndWhile_eq_nil_iff]
  constructor
  · intro feeds
    cases shape : f.hunks with
    | nil => rfl
    | cons h rest =>
      have head : h.header.head? = some '@' := rfl
      have start : '@' ∈ f.hunks.flatMap Hunk.written := by
        rw [shape, List.flatMap_cons]
        exact List.mem_append_left _ (List.mem_append_left _ (List.mem_of_head? head))
      have same : '@' = '\n' := by simpa using feeds '@' start
      exact absurd same (by decide)
  · intro none
    simp [none]

end FilePatch
end PatchReview.Diff
