import PatchReview.Proofs.Pattern.Replacing
import PatchReview.Proofs.Text.Trim
import PatchReview.Report.Markup

-- Taking markup out only deletes.  Each pass leaves a part of what it is given, in order, and where
-- there are no links only marks and blank characters go.  This is said of every text, and a text
-- has no half pairs of surrogates in it.
namespace PatchReview
namespace Markup

-- What may be left out where there is no link.
def isMark (c : Char) : Bool := Text.isBlank c || ['#', '*', '-', codeMark].contains c

theorem dropBold_sublist (text : Text) : (dropBold text).Sublist text := by
  fun_induction dropBold text with
  | case1 rest ih => exact (ih.cons _).cons _
  | case2 c rest _ ih => exact ih.cons_cons c
  | case3 => exact List.Sublist.refl []

theorem dropBold_filter {kept : Char → Bool} (star : kept '*' = false) (text : Text) :
    (dropBold text).filter kept = text.filter kept := by
  fun_induction dropBold text with
  | case1 rest ih => simp [star, ih]
  | case2 c rest _ ih => rw [List.filter_cons, List.filter_cons, ih]
  | case3 => rfl

-- Every link begins with a bracket.
theorem link_bracket (front body back : Text) (found : link.IsMatch front body back) :
    '[' ∈ front := by
  obtain ⟨_, _, _, _, ⟨lead, passed⟩, -⟩ := found
  have bracket := Pattern.spans_exactly.mp (show (Pattern.exactly "[").Spans _ _ from lead)
  rw [passed.unique bracket]
  exact List.mem_singleton_self '['

-- The text after the first passes, and what is left of it without links and code marks.
def unheaded (text : Text) : Text := dropBold (heading.keepBodies text)

def unlinked (text : Text) : Text := (link.keepBodies (unheaded text)).filter (· ≠ codeMark)

section
variable (text : Text)

theorem unheaded_sublist : (unheaded text).Sublist text :=
  (dropBold_sublist _).trans (heading.replaces_keepBodies text).sublist

theorem unlinked_sublist : (unlinked text).Sublist text :=
  List.filter_sublist.trans
    ((link.replaces_keepBodies (unheaded text)).sublist.trans (unheaded_sublist text))

theorem strip_sublist_unlinked : (strip text).Sublist (unlinked text) :=
  (Text.isInfix_trimWhile Text.isBlank _).sublist.trans
    (bulletMark.replaces_keepBodies (unlinked text)).sublist

theorem strip_sublist : (strip text).Sublist text :=
  (strip_sublist_unlinked text).trans (unlinked_sublist text)

theorem codeMark_strip : codeMark ∉ strip text := by
  intro member
  have kept := (List.mem_filter.mp ((strip_sublist_unlinked text).subset member)).2
  simp at kept

theorem unheaded_filter :
    (unheaded text).filter (fun c => !isMark c) = text.filter fun c => !isMark c := by
  have lead : heading.lead.takesOnly fun c => isMark c = true := by
    refine ⟨fun c hash => ?_, fun c blank => ?_, trivial⟩
    · have hash : c = '#' := by simpa [CharSet.contains] using hash
      rw [hash]
      rfl
    · exact Bool.or_eq_true_iff.mpr (.inl blank)
  unfold unheaded
  rw [dropBold_filter rfl]
  exact (heading.replaces_keepBodies text).filter_eq lead trivial fun c mark => by simp [mark]

theorem unlinked_filter (plain : '[' ∉ text) :
    (unlinked text).filter (fun c => !isMark c) = text.filter fun c => !isMark c := by
  have clear : '[' ∉ unheaded text := fun member => plain ((unheaded_sublist text).subset member)
  have same : link.keepBodies (unheaded text) = unheaded text :=
    (link.replaces_keepBodies _).eq_self link_bracket clear
  unfold unlinked
  rw [same, List.filter_filter, ← unheaded_filter text]
  apply List.filter_congr
  intro c member
  by_cases code : c = codeMark
  · rw [code]
    rfl
  · simp [code]

theorem strip_filter :
    (strip text).filter (fun c => !isMark c) = (unlinked text).filter fun c => !isMark c := by
  have tail : bulletMark.tail.takesOnly fun c => isMark c = true := by
    refine ⟨fun c bullet => ?_, fun c blank => ?_, trivial⟩
    · have bullet : c = '-' ∨ c = '*' := by simpa [CharSet.contains] using bullet
      rcases bullet with rfl | rfl <;> rfl
    · exact Bool.or_eq_true_iff.mpr (.inl blank)
  have blank (c : Char) (blank : Text.isBlank c = true) : (!isMark c) = false := by
    simp [isMark, blank]
  have unbulleted := bulletMark.replaces_keepBodies (unlinked text)
  exact (Text.filter_trim blank _).trans
    (unbulleted.filter_eq trivial tail fun c mark => by simp [mark])

theorem strip_only_deletes :
    (strip text).Sublist text ∧ codeMark ∉ strip text ∧ Text.IsTrimmed (strip text) ∧
      ('[' ∉ text →
        (strip text).filter (fun c => !isMark c) = text.filter fun c => !isMark c) := by
  refine ⟨strip_sublist text, codeMark_strip text, Text.isTrimmed_trim _, ?_⟩
  intro plain
  rw [strip_filter, unlinked_filter text plain]

end

end Markup
end PatchReview
