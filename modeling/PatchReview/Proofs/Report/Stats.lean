import Mathlib.Algebra.BigOperators.Group.List.Basic
import Mathlib.Algebra.GroupWithZero.Nat
import PatchReview.Report.Stats

-- Totals over the files of a review.
namespace PatchReview.ReviewStats

theorem total_eq_sum (size : ReviewedFile → Nat) (files : List ReviewedFile) :
    total size files = ((files.map size).sum : Nat) := rfl

theorem total_eq_zero_iff {size : ReviewedFile → Nat} {files : List ReviewedFile} :
    total size files = 0 ↔ ∀ file ∈ files, size file = 0 := by
  rw [total_eq_sum, Int.natCast_eq_zero, List.sum_eq_zero_iff_forall_eq_nat, List.forall_mem_map]

theorem total_map (size : ReviewedFile → Nat) (change : ReviewedFile → ReviewedFile)
    (files : List ReviewedFile) : total size (files.map change) = total (size ∘ change) files := by
  unfold total
  rw [List.map_map]

theorem total_congr {one two : ReviewedFile → Nat} {files : List ReviewedFile}
    (same : ∀ file ∈ files, one file = two file) : total one files = total two files := by
  unfold total
  rw [List.map_congr_left same]

end PatchReview.ReviewStats
