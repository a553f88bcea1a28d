import PatchReview.Proofs.Pattern.InLine
import PatchReview.Proofs.Text.Lines
import PatchReview.Prose

-- Bullets are found line by line.  A bullet pattern matches whole lines only, so all its matches in
-- a text are its matches in the single lines, each at the offset of its line.
namespace PatchReview
namespace Capture

-- A match begins a line, ends it, and takes at least one character.
structure TakesLines (p : Capture) : Prop where
  stays : p.staysInLine = true
  begins : ∀ c found, p.at? c = some found → c.atLineStart = true
  fills : ∀ line found, '\n' ∉ line → p.at? (.start line) = some found →
    line ≠ [] ∧ found.width = line.length

section
variable {p : Capture}

theorem TakesLines.at?_inside (takes : p.TakesLines) {b : Char} (other : b ≠ '\n')
    (before text : Text) (offset : Nat) : p.at? ⟨b :: before, text, offset⟩ = none := by
  cases matched : p.at? ⟨b :: before, text, offset⟩ with
  | none => rfl
  | some found =>
    have start := takes.begins _ _ matched
    simp [Cursor.atLineStart, other] at start

theorem TakesLines.first?_line (takes : p.TakesLines) {line : Text} (inside : '\n' ∉ line) :
    p.first? line = p.at? (.start line) := by
  have later (b : Char) (before rest : Text) (offset : Nat) (other : b ≠ '\n')
      (ahead : '\n' ∉ rest) : p.firstFrom? (b :: before) offset rest = none := by
    induction rest generalizing b before offset with
    | nil => exact takes.at?_inside other before [] offset
    | cons c rest ih =>
      simp only [List.mem_cons, not_or] at ahead
      unfold firstFrom?
      rw [takes.at?_inside other, ih c (b :: before) (offset + 1) (Ne.symm ahead.1) ahead.2]
      rfl
  cases line with
  | nil => rfl
  | cons c line =>
    simp only [List.mem_cons, not_or] at inside
    unfold first? firstFrom?
    rw [later c [] line 1 (Ne.symm inside.1) inside.2]
    change (p.at? (.start (c :: line))).orElse (fun _ => none) = p.at? (.start (c :: line))
    cases p.at? (.start (c :: line)) <;> rfl

theorem TakesLines.first?_empty (takes : p.TakesLines) : p.first? [] = none := by
  rw [takes.first?_line (by simp)]
  cases matched : p.at? (.start []) with
  | none => rfl
  | some found => exact absurd rfl (takes.fills [] found (by simp) matched).1

-- At the start of a line the search in the text sees the line alone.
theorem TakesLines.taken?_line (takes : p.TakesLines) {line before after : Text}
    (inside : '\n' ∉ line) (left : LineEdge before) (right : LineEdge after) (offset : Nat) :
    p.taken? ⟨before, line ++ after, offset⟩ =
      (p.first? line).map (Found.within before after offset) := by
  have same :=
    at?_within takes.stays left right offset (.start line) ⟨by simp [Cursor.start], inside⟩
  rw [takes.first?_line inside]
  unfold taken?
  change p.at? ⟨before, line ++ after, offset⟩ = _ at same
  rw [same]
  cases matched : p.at? (.start line) with
  | none => rfl
  | some found =>
    obtain ⟨filled, width⟩ := takes.fills line found inside matched
    have positive : 0 < (found.within before after offset).width := by
      have shifted : (found.within before after offset).width = found.width := by
        simp only [Found.width, Found.within, Cursor.within]
        omega
      rw [shifted, width]
      exact List.length_pos_iff.mpr filled
    simp [positive]

-- Inside a line nothing is found, whether or not a match before it covers the place.
theorem TakesLines.allFrom_inside (takes : p.TakesLines) {line : Text} (inside : '\n' ∉ line)
    {b : Char} (other : b ≠ '\n') (skip offset : Nat) (before after : Text) :
    p.allFrom skip (b :: before) offset (line ++ after) =
      p.allFrom (skip - line.length) (line.reverse ++ b :: before) (offset + line.length)
        after := by
  induction line generalizing b skip before offset with
  | nil => rfl
  | cons c line ih =>
    simp only [List.mem_cons, not_or] at inside
    have more := fun skip => ih inside.2 (Ne.symm inside.1) skip (offset + 1) (b :: before)
    cases skip with
    | zero =>
      have none : p.taken? ⟨b :: before, c :: (line ++ after), offset⟩ = none := by
        rw [taken?, takes.at?_inside other]
        rfl
      rw [List.cons_append, allFrom, none]
      simpa [Nat.add_assoc, Nat.add_comm 1] using more 0
    | succ skip =>
      rw [List.cons_append, allFrom]
      simpa [Nat.add_assoc, Nat.add_comm 1] using more skip

-- A line gives its own match, and the search goes on behind it.
theorem TakesLines.allFrom_line (takes : p.TakesLines) {line before after : Text}
    (inside : '\n' ∉ line) (left : LineEdge before) (right : LineEdge after) (offset : Nat) :
    p.allFrom 0 before offset (line ++ after) =
      ((p.first? line).map (Found.within before after offset)).toList ++
        p.allFrom 0 (line.reverse ++ before) (offset + line.length) after := by
  have here := takes.taken?_line inside left right offset
  cases line with
  | nil =>
    rw [takes.first?_empty]
    rfl
  | cons c line =>
    have tail : '\n' ∉ line := fun member => inside (List.mem_cons_of_mem _ member)
    have other : c ≠ '\n' := fun same => inside (by simp [same])
    have behind : (c :: line).reverse ++ before = line.reverse ++ c :: before := by simp
    have place : offset + (c :: line).length = offset + 1 + line.length := by
      simp only [List.length_cons]
      omega
    rw [behind, place]
    rw [List.cons_append] at here ⊢
    rw [allFrom, here]
    cases matched : p.first? (c :: line) with
    | none =>
      simp only [Option.map_none, Option.toList_none, List.nil_append]
      rw [takes.allFrom_inside tail other, Nat.zero_sub]
    | some found =>
      have width : (found.within before after offset).width - 1 - line.length = 0 := by
        have filled := (takes.fills _ found inside (takes.first?_line inside ▸ matched)).2
        simp only [Found.width, Found.within, Cursor.within, List.length_cons] at filled ⊢
        omega
      simp only [Option.map_some, Option.toList_some, List.singleton_append]
      rw [takes.allFrom_inside tail other, width]

theorem TakesLines.allFrom_lineFeed (takes : p.TakesLines) {line before : Text}
    (inside : '\n' ∉ line) (left : LineEdge before) (rest : Text) (offset : Nat) :
    p.allFrom 0 (line.reverse ++ before) offset ('\n' :: rest) =
      p.allFrom 0 ('\n' :: (line.reverse ++ before)) (offset + 1) rest := by
  have none : p.taken? ⟨line.reverse ++ before, '\n' :: rest, offset⟩ = none := by
    cases behind : line.reverse with
    | nil =>
      have nothing : '\n' ∉ ([] : Text) := by simp
      have empty := takes.taken?_line nothing left (lineEdge_cons rest) offset
      rw [takes.first?_empty] at empty
      exact empty
    | cons b before' =>
      have member : b ∈ line := List.mem_reverse.mp (behind ▸ List.mem_cons_self ..)
      have other : b ≠ '\n' := fun same => inside (same ▸ member)
      rw [List.cons_append, taken?, takes.at?_inside other]
      rfl
  rw [allFrom, none]

end
end Capture

namespace Prose

-- A position of a line leads back to the start of the line.
theorem lineOf_line {front edge : Text} (inside : '\n' ∉ front) (left : LineEdge edge)
    (after : Text) (offset : Nat) :
    lineOf ⟨front.reverse ++ edge, after, offset + front.length⟩ = offset := by
  have own : (front.reverse ++ edge).takeWhile (· ≠ '\n') = front.reverse := by
    rw [List.takeWhile_append_of_pos]
    · cases edge with
      | nil => simp
      | cons c edge =>
        cases left c (by simp)
        simp
    · intro c member
      have other : c ≠ '\n' := fun same => inside (same ▸ List.mem_reverse.mp member)
      simpa using other
  rw [lineOf, own, List.length_reverse, Nat.add_sub_cancel]

-- The line that a match starts, with the text that it singles out.
def placeAndText (found : Capture.Found) : Nat × Text := (lineOf found.start, found.text)

theorem placeAndText_within {p : Capture} {line : Text} {found : Capture.Found}
    (matched : p.at? (.start line) = some found) {before : Text} (left : LineEdge before)
    (after : Text) (offset : Nat) :
    placeAndText (found.within before after offset) = (offset, found.text) := by
  obtain ⟨start, -, body, -⟩ := Capture.at?_spans matched
  obtain ⟨run, passed⟩ := body.passes
  have text : (found.within before after offset).text = found.text := by
    have around : (found.within before after offset).text = run :=
      (passed.within before after offset).upTo
    rw [around, Capture.Found.text, passed.upTo]
  have place : lineOf (found.within before after offset).start = offset := by
    have nothing : '\n' ∉ ([] : Text) := by simp
    rw [Capture.Found.within, start]
    exact lineOf_line nothing left (line ++ after) offset
  rw [placeAndText, text, place]

-- All matches of a bullet pattern, from those in the single lines.
theorem allFrom_lines {p : Capture} (takes : p.TakesLines) (text before : Text)
    (left : LineEdge before) (offset : Nat) :
    (p.allFrom 0 before offset text).map placeAndText =
      (placed offset (Text.lines text)).filterMap fun (start, line) =>
        (p.first? line).map fun found => (start, found.text) := by
  have own {line : Text} (inside : '\n' ∉ line) {before : Text} (left : LineEdge before)
      (after : Text) (offset : Nat) :
      ((p.first? line).map (Capture.Found.within before after offset)).toList.map placeAndText =
        ((p.first? line).map fun found => (offset, found.text)).toList := by
    rw [takes.first?_line inside]
    cases matched : p.at? (.start line) with
    | none => rfl
    | some found => simp [placeAndText_within matched left]
  induction text using Text.line_induction generalizing before offset with
  | single line inside =>
    have all := takes.allFrom_line inside left lineEdge_nil offset
    rw [List.append_nil] at all
    rw [all, Text.lines_single inside, List.map_append, own inside left]
    cases matched : p.first? line <;> simp [Capture.allFrom, placed, matched]
  | more line rest inside ih =>
    rw [takes.allFrom_line inside left (lineEdge_cons rest), takes.allFrom_lineFeed inside left,
      List.map_append, own inside left, ih _ (lineEdge_cons _), Text.lines_append inside]
    cases matched : p.first? line <;> simp [placed, matched]

theorem bulleted_takesLines {words : List Text} (stays : (bulleted words).staysInLine = true) :
    (bulleted words).TakesLines where
  stays := stays
  begins := by
    intro c found matched
    obtain ⟨-, lead, -, -⟩ := Capture.at?_spans matched
    obtain ⟨marked, ⟨start, ⟨same, begins⟩, -⟩, -⟩ := lead
    exact begins
  fills := by
    intro line found inside matched
    obtain ⟨start, lead, body, ⟨stop, ends⟩⟩ := Capture.at?_spans matched
    obtain ⟨first, leading⟩ := lead.passes
    obtain ⟨run, -, some, -, passed⟩ := body
    have whole := Pattern.passes_trans leading passed
    have all : line = (first ++ run) ++ found.bodyEnd.after := whole.1
    have behind : '\n' ∉ found.bodyEnd.after :=
      fun feed => inside (all ▸ List.mem_append_right _ feed)
    have text : line = first ++ run := by
      rw [all, Cursor.after_of_atLineEnd ends behind, List.append_nil]
    constructor
    · rw [text]
      intro empty
      simp [(List.append_eq_nil_iff.mp empty).2] at some
    · rw [Capture.Found.width, stop, start, whole.2.2, ← text]
      simp [Cursor.start]

theorem issueBullet_takesLines : issueBullet.TakesLines := bulleted_takesLines (by decide)

theorem suggestionBullet_takesLines : suggestionBullet.TakesLines := bulleted_takesLines (by decide)

end Prose
end PatchReview
