import PatchReview.Proofs.Report.Markup
import PatchReview.Proofs.Text.Lines
import PatchReview.Report.Render

-- Text without markup.  None of the passes finds anything in it but the first, which takes number
-- signs for a heading wherever a blank character follows; where there are none the text is only
-- trimmed, and the plain report shows it as it is.
namespace PatchReview

namespace Markup

-- No bold, code, link, heading or bullet.
structure Unmarked (text : Text) : Prop where
  star : '*' ∉ text
  code : codeMark ∉ text
  bracket : '[' ∉ text
  opening : ∀ line ∈ Text.lines text,
    (line.dropWhile Text.isBlank).head? ≠ some '#' ∧ (line.dropWhile Text.isBlank).head? ≠ some '-'

instance (text : Text) : Decidable (Unmarked text) :=
  decidable_of_iff ('*' ∉ text ∧ codeMark ∉ text ∧ '[' ∉ text ∧ ∀ line ∈ Text.lines text,
      (line.dropWhile Text.isBlank).head? ≠ some '#' ∧
        (line.dropWhile Text.isBlank).head? ≠ some '-')
    ⟨fun ⟨star, code, bracket, opening⟩ => ⟨star, code, bracket, opening⟩,
      fun unmarked => ⟨unmarked.star, unmarked.code, unmarked.bracket, unmarked.opening⟩⟩

-- A number sign directly before a blank character, at any place of a line.
def HasSpacedSign (text : Text) : Prop :=
  ∃ front blank back, text = front ++ '#' :: blank :: back ∧ Text.isBlank blank = true

variable {text : Text}

theorem dropBold_self (clear : '*' ∉ text) : dropBold text = text := by
  fun_induction dropBold text with
  | case1 rest _ => exact absurd List.mem_cons_self clear
  | case2 c rest _ ih => rw [ih fun member => clear (List.mem_cons_of_mem _ member)]
  | case3 => rfl

-- What a heading mark takes: its signs and a blank character.
theorem heading_spans {c stop : Cursor} (span : heading.lead.Spans c stop) :
    ∃ signs blank, c.Passes (signs ++ [blank]) stop ∧ signs ≠ [] ∧ (∀ x ∈ signs, x = '#') ∧
      Text.isBlank blank = true := by
  obtain ⟨middle, ⟨signs, same, enough, -, passed⟩, last, ⟨blank, spaced, further⟩, here⟩ := span
  obtain rfl : stop = last := here
  refine ⟨signs, blank, Pattern.passes_trans passed further, ?_, ?_, spaced⟩
  · exact List.ne_nil_of_length_pos enough
  · intro x member
    simpa [CharSet.contains] using same x member

theorem heading_sign (front body back : Text) (found : heading.IsMatch front body back) :
    '#' ∈ front := by
  obtain ⟨_, _, _, _, ⟨lead, passed⟩, -⟩ := found
  obtain ⟨signs, blank, same, given, sign, -⟩ := heading_spans lead
  rw [passed.unique same]
  obtain ⟨x, member⟩ := List.exists_mem_of_ne_nil signs given
  exact List.mem_append_left _ (sign x member ▸ member)

-- A spaced sign starts a match, whatever comes next.
theorem heading_taken {before back : Text} {blank : Char} (offset : Nat)
    (spaced : Text.isBlank blank = true) :
    heading.taken? ⟨before, '#' :: blank :: back, offset⟩ ≠ none := by
  let start : Cursor := ⟨before, '#' :: blank :: back, offset⟩
  have signed : (Pattern.many (.oneOf "#") 1 (some 6)).Spans start
      ⟨'#' :: before, blank :: back, offset + 1⟩ :=
    ⟨['#'], by simp [CharSet.contains], Nat.le_refl 1, by simp, rfl, rfl, rfl⟩
  have ended : (Pattern.char .blank).Spans ⟨'#' :: before, blank :: back, offset + 1⟩
      ⟨blank :: '#' :: before, back, offset + 2⟩ := ⟨blank, spaced, rfl, rfl, rfl⟩
  have matched : (heading.at? start).isSome = true :=
    Capture.at?_isSome.mpr ⟨_, _, _, ⟨_, signed, _, ended, rfl⟩, rfl, rfl⟩
  obtain ⟨found, matched⟩ := Option.isSome_iff_exists.mp matched
  obtain ⟨here, lead, body, tail⟩ := Capture.at?_spans matched
  obtain ⟨signs, last, passed, -⟩ := heading_spans lead
  have wide : 0 < found.width := by
    have same : found.stop = found.bodyStart := Eq.trans tail body
    rw [Capture.Found.width, here, same, passed.2.2, List.length_append]
    exact Nat.sub_pos_of_lt (by simp)
  unfold Capture.taken?
  rw [matched, Option.filter_some, decide_eq_true wide]
  exact Option.some_ne_none found

theorem heading_kept_iff : heading.keepBodies text = text ↔ ¬HasSpacedSign text := by
  constructor
  · intro kept spaced
    obtain ⟨front, blank, back, shape, spaced⟩ := spaced
    exact heading_taken _ spaced (Capture.taken?_of_kept rfl kept shape)
  · intro clear
    apply Capture.keepFrom_untaken
    intro front c back shape
    apply Option.eq_none_iff_forall_ne_some.mpr
    intro found taken
    obtain ⟨-, lead, -⟩ := Capture.at?_spans (Option.filter_eq_some_iff.mp taken).1
    obtain ⟨signs, blank, passed, given, sign, spaced⟩ := heading_spans lead
    apply clear
    -- The last of the signs is the one before the blank character.
    obtain ⟨first, last, rfl⟩ := (List.eq_nil_or_concat signs).resolve_left given
    obtain rfl : last = '#' := sign last (by simp)
    refine ⟨front ++ first, blank, found.bodyStart.after, ?_, spaced⟩
    rw [shape, show c :: back = _ from passed.1]
    simp

-- A bullet stands first in its line, apart from blank characters.
theorem exists_opening {front run : Text} {mark : Char}
    (starts : ∀ c ∈ front.getLast?, c = '\n') (blank : ∀ c ∈ run, Text.isBlank c = true)
    (visible : Text.isBlank mark = false) (back : Text) :
    ∃ line ∈ Text.lines (front ++ (run ++ mark :: back)),
      (line.dropWhile Text.isBlank).head? = some mark := by
  induction run using Text.line_induction generalizing front with
  | single run inside =>
    have inside : '\n' ∉ run ++ [mark] := by
      refine List.not_mem_append inside fun member => ?_
      rw [← List.mem_singleton.mp member] at visible
      cases visible
    obtain ⟨rest, member⟩ := Text.exists_line starts inside back
    refine ⟨run ++ mark :: rest, by simpa using member, ?_⟩
    rw [List.dropWhile_append_of_pos blank, List.dropWhile_cons_of_neg (by simp [visible])]
    rfl
  | more line rest inside ih =>
    have ended : ∀ c ∈ (front ++ (line ++ ['\n'])).getLast?, c = '\n' := by simp
    obtain ⟨one, member, first⟩ := ih ended fun c among => blank c (by simp [among])
    exact ⟨one, by simpa using member, first⟩

theorem bulletMark_self (unmarked : Unmarked text) : bulletMark.keepBodies text = text := by
  apply Capture.keepFrom_untaken
  intro front c back shape
  apply Option.eq_none_iff_forall_ne_some.mpr
  intro found taken
  obtain ⟨-, lead, body, tail⟩ := Capture.at?_spans (Option.filter_eq_some_iff.mp taken).1
  obtain ⟨here, starts⟩ := lead
  obtain ⟨run, blank, -, -, passed⟩ := body
  obtain ⟨behind, ⟨mark, bullet, further⟩, -⟩ := tail
  have starts : ∀ x ∈ front.getLast?, x = '\n' := by
    have edge : front = [] ∨ front.getLast? = some '\n' := by
      simpa [Cursor.atLineStart, List.head?_reverse] using starts
    intro x last
    rcases edge with rfl | ends
    · cases last
    · exact Option.some.inj (last.symm.trans ends)
  have whole : text = front ++ (run ++ mark :: behind.after) := by
    rw [here] at passed
    have ahead : c :: back = run ++ found.bodyEnd.after := passed.1
    rw [shape, ahead, further.1, List.singleton_append]
  have bullet : mark = '-' ∨ mark = '*' := by simpa [CharSet.contains] using bullet
  have visible : Text.isBlank mark = false := by rcases bullet with rfl | rfl <;> rfl
  obtain ⟨line, member, first⟩ := exists_opening starts blank visible behind.after
  rw [← whole] at member
  rcases bullet with rfl | rfl
  · exact (unmarked.opening line member).2 first
  · exact unmarked.star (by simp [whole])

theorem strip_unmarked (unmarked : Unmarked text) (clear : ¬HasSpacedSign text) :
    strip text = Text.trim text := by
  have linked : link.keepBodies text = text :=
    (link.replaces_keepBodies text).eq_self link_bracket unmarked.bracket
  have uncoded : text.filter (· ≠ codeMark) = text := by
    apply List.filter_eq_self.mpr
    intro c member
    exact decide_eq_true fun same => unmarked.code (same ▸ member)
  unfold strip
  dsimp only
  rw [heading_kept_iff.mpr clear, dropBold_self unmarked.star, linked, uncoded,
    bulletMark_self unmarked]

-- Every spaced sign loses a number sign, which trimming does not.
theorem count_sign_strip (spaced : HasSpacedSign text) :
    (strip text).count '#' < (Text.trim text).count '#' := by
  have fewer : (heading.keepBodies text).count '#' < text.count '#' :=
    ((heading.replaces_keepBodies text).fewer heading_sign).resolve_left
      fun kept => heading_kept_iff.mp kept spaced
  have later : (strip text).Sublist (heading.keepBodies text) :=
    (strip_sublist_unlinked text).trans <| List.filter_sublist.trans <|
      (link.replaces_keepBodies (unheaded text)).sublist.trans (dropBold_sublist _)
  have trimmed : (Text.trim text).count '#' = text.count '#' := by
    rw [List.count_eq_length_filter, List.count_eq_length_filter, Text.filter_trim]
    intro c blank
    apply beq_eq_false_iff_ne.mpr
    rintro rfl
    cases blank
  calc (strip text).count '#'
    _ ≤ (heading.keepBodies text).count '#' := later.count_le '#'
    _ < text.count '#' := fewer
    _ = (Text.trim text).count '#' := trimmed.symm

end Markup

namespace PlainReport

variable (paint : Option Style → Text → Text) {review : ReviewSet} {entry : ReviewedFile}

-- What is left of a summary stands in the report with all of its lines.
theorem summary_shown (member : entry ∈ review.files) (given : entry.analysis.summary ≠ []) :
    Text.lines ("   " ++ Markup.strip entry.analysis.summary) <:+:
      Text.lines (render paint review) := by
  have among : "   " ++ Markup.strip entry.analysis.summary ∈ fileLines paint entry := by
    simp [fileLines, summaryLines, given]
  have inFile : Text.lines (Text.unlines (fileLines paint entry)) <:+:
      Text.lines (file paint entry) := Text.lines_ended _
  have inReport : Text.lines (file paint entry) <:+: Text.lines (render paint review) :=
    Text.lines_part (List.mem_append_right _ (List.mem_map_of_mem member))
  exact (Text.lines_part among).trans (inFile.trans inReport)

theorem overall_shown (given : review.summary ≠ []) :
    Text.lines (Markup.strip review.summary) <:+: Text.lines (render paint review) := by
  have among : Markup.strip review.summary ++ "\n" ∈ overall paint review.summary := by
    simp [overall, given]
  refine (Text.lines_ended _).trans (Text.lines_part ?_)
  exact List.mem_append_left _ (List.mem_append_left _ (List.mem_append_right _ among))

end PlainReport

namespace Markup

-- A text without markup is only trimmed, and shown so, exactly if no number sign of it is spaced.
theorem unmarked_kept {text : Text} (unmarked : Unmarked text) :
    (strip text = Text.trim text ↔ ¬HasSpacedSign text) ∧
    (¬HasSpacedSign text → text ≠ [] → ∀ (review : ReviewSet) (color : Bool),
      (review.summary = text →
        Text.lines (Text.trim text) <:+: Text.lines (review.render .text color)) ∧
      ∀ entry ∈ review.files, entry.analysis.summary = text →
        Text.lines ("   " ++ Text.trim text) <:+: Text.lines (review.render .text color)) := by
  constructor
  · constructor
    · intro same spaced
      exact absurd (congrArg (List.count '#') same) (Nat.ne_of_lt (count_sign_strip spaced))
    · exact strip_unmarked unmarked
  · intro clear given review color
    rw [← strip_unmarked unmarked clear]
    constructor
    · rintro rfl
      exact PlainReport.overall_shown _ given
    · intro entry member same
      rw [← same] at given ⊢
      exact PlainReport.summary_shown _ member given

def prose : Text := "Keep a-b and C#, see #5.\n\n  More - or less."

-- A review whose only file has prose for its summary.
def proseFile : ReviewSet where
  summary := []
  stats := { files := 1 }
  files := [{ filename := "a.py"
              analysis := { filename := "a.py", rating := .good, summary := prose } }]

theorem unmarked_kept_prose :
    strip prose = prose ∧
      Text.lines ("   " ++ prose) <:+: Text.lines (proseFile.render .text true) ∧
      strip "Fix issue # 5" ≠ Text.trim "Fix issue # 5" := by
  have unmarked : Unmarked prose := by decide +kernel
  have issue : Unmarked "Fix issue # 5" := by decide +kernel
  have trimmed : Text.trim prose = prose := by decide +kernel
  have same : strip prose = Text.trim prose := by decide +kernel
  have clear : ¬HasSpacedSign prose := (unmarked_kept unmarked).1.mp same
  have spaced : HasSpacedSign "Fix issue # 5" :=
    ⟨"Fix issue ", ' ', "5", by decide +kernel, by decide +kernel⟩
  obtain ⟨-, shown⟩ := (unmarked_kept unmarked).2 clear nofun proseFile true
  have listed := shown _ List.mem_cons_self rfl
  rw [trimmed] at same listed
  exact ⟨same, listed, fun kept => (unmarked_kept issue).1.mp kept spaced⟩

end Markup
end PatchReview
