import PatchReview.Proofs.Rule.Surroundings
import PatchReview.Proofs.Scan.Findings

-- The issues of a scan, line by line.  They are what the security rules find at the single lines,
-- in the order of the lines and then of the table, and no line is told anything of another.
namespace PatchReview

namespace RuleTable

def securityRules : List LineRule := lineRules.filter (·.category = .security)

variable {rule : LineRule}

theorem mem_securityRules :
    rule ∈ securityRules ↔ rule ∈ lineRules ∧ rule.category = .security := by
  simp [securityRules]

-- A security rule says nothing of the line that it is about.
theorem securityRules_wording : ∀ rule ∈ securityRules,
    .slot .line ∉ rule.description ∧ .slot .length ∉ rule.description := by decide

-- The marker of an added line hides nothing and shows nothing.
theorem fires_added (member : rule ∈ securityRules) (line : Text) :
    rule.fires ('+' :: line) = rule.fires line := by
  obtain ⟨listed, secures⟩ := mem_securityRules.mp member
  have short : rule ≠ longLine := by
    intro long
    rw [long] at secures
    cases secures
  exact fires_marked (by decide) listed short (fun _ => by decide) line

theorem finding_added (member : rule ∈ securityRules) (number : Nat) (line : Text) :
    rule.finding number ('+' :: line) = rule.finding number line := by
  obtain ⟨noLine, noLength⟩ := securityRules_wording rule member
  have worded : rule.wording ('+' :: line) = rule.wording line := by
    apply List.flatMap_congr
    intro piece among
    match piece with
    | .text _ => rfl
    | .slot .line => exact absurd among noLine
    | .slot .length => exact absurd among noLength
  unfold RuleInfo.finding
  rw [worded]

end RuleTable

namespace Scan

open RuleTable

-- What the security rules find at one line, given its number.
def secureAt (number : Nat) (line : Text) : List Finding :=
  (securityRules.filter (·.fires line)).map fun rule => rule.finding number line

-- What they find at lines that are numbered from here on.
def secureFrom (number : Nat) (lines : List Text) : List Finding :=
  (lines.zipIdx number).flatMap fun place => secureAt place.2 place.1

theorem secureFrom_append (number : Nat) (first second : List Text) :
    secureFrom number (first ++ second) =
      secureFrom number first ++ secureFrom (number + first.length) second := by
  unfold secureFrom
  rw [List.zipIdx_append, List.flatMap_append]

theorem secureFrom_single (number : Nat) (line : Text) :
    secureFrom number [line] = secureAt number line := by
  unfold secureFrom
  rw [List.zipIdx_singleton, List.flatMap_singleton]

theorem secureAt_nil (number : Nat) : secureAt number [] = [] := by
  unfold secureAt
  rw [List.map_eq_nil_iff, List.filter_eq_nil_iff]
  intro rule member
  obtain ⟨listed, secures⟩ := mem_securityRules.mp member
  rw [security_needs_text rule listed secures]
  exact Bool.false_ne_true

theorem secureAt_added (number : Nat) (line : Text) :
    secureAt number ('+' :: line) = secureAt number line := by
  unfold secureAt
  rw [List.filter_congr fun rule member => fires_added member line]
  apply List.map_congr_left
  intro rule member
  exact finding_added (List.mem_filter.mp member).1 number line

theorem secureFrom_added (number : Nat) (lines : List Text) :
    secureFrom number (lines.map ('+' :: ·)) = secureFrom number lines := by
  unfold secureFrom
  rw [List.zipIdx_map, List.flatMap_map]
  apply List.flatMap_congr
  intro place _
  exact secureAt_added place.2 place.1

theorem issues_atLine (number : Nat) (line : Text) (following : Option Text) :
    (atLine number line following).filter isIssue = secureAt number line := by
  have beyond : ((lookaheadRules.filter (·.fires line following)).map
      fun rule => rule.finding number line).filter isIssue = [] := by
    rw [List.filter_eq_nil_iff, List.forall_mem_map]
    intro rule member
    obtain ⟨other, mild⟩ := lookaheadRules_mild rule (List.mem_filter.mp member).1
    simp [isIssue, RuleInfo.finding, other, mild]
  unfold atLine secureAt securityRules
  rw [List.filter_append, beyond, List.append_nil, List.filter_map, List.filter_filter,
    List.filter_filter]
  congr 1
  apply List.filter_congr
  intro rule listed
  have secures : isIssue (rule.finding number line) = decide (rule.category = .security) := by
    rw [Bool.eq_iff_iff, decide_eq_true_eq]
    unfold isIssue
    rw [Bool.or_eq_true, decide_eq_true_eq]
    exact or_iff_left_of_imp (lineRules_severe rule listed)
  rw [Function.comp_apply, secures, Bool.and_comm]

theorem issues_fromLine (number : Nat) (lines : List Text) :
    (fromLine number lines).filter isIssue = secureFrom number lines := by
  induction lines generalizing number with
  | nil => rfl
  | cons line rest ih =>
    unfold fromLine
    rw [List.filter_append, issues_atLine, ih, secureFrom, secureFrom, List.zipIdx_cons,
      List.flatMap_cons]

theorem issues_reviewByRules (file : ChangedFile) :
    (reviewByRules file).issues = secureFrom 1 (Text.lines file.patch) := by
  rw [← issues_fromLine]
  unfold reviewByRules
  split
  · rename_i empty
    rw [List.isEmpty_iff.mp empty, issues_fromLine]
    exact (secureAt_nil 1).symm
  · have beyond : ((patchRules.filter fun rule => rule.concerns file.filename &&
        rule.fires file.patch).map PatchRule.finding).filter isIssue = [] := by
      rw [List.filter_eq_nil_iff, List.forall_mem_map]
      intro rule member
      obtain ⟨other, mild⟩ := patchRules_mild rule (List.mem_filter.mp member).1
      simp [isIssue, PatchRule.finding, other, mild]
    dsimp only
    unfold patchFindings
    rw [List.filter_append, beyond, List.append_nil]
    rfl

theorem mem_issues_iff {file : ChangedFile} {finding : Finding} :
    finding ∈ (reviewByRules file).issues ↔
      ∃ i line, (Text.lines file.patch)[i]? = some line ∧ ∃ rule ∈ securityRules,
        rule.fires line = true ∧ finding = rule.finding (1 + i) line := by
  rw [issues_reviewByRules]
  simp only [secureFrom, List.mem_flatMap, Prod.exists, secureAt, List.mem_map, List.mem_filter,
    and_assoc, List.mem_zipIdx_iff_le_and_getElem?_sub, @eq_comm _ finding]
  constructor
  · rintro ⟨line, number, after, place, found⟩
    refine ⟨number - 1, line, place, ?_⟩
    rwa [Nat.add_sub_cancel' after]
  · rintro ⟨i, line, place, found⟩
    refine ⟨line, 1 + i, Nat.le_add_right 1 i, ?_, found⟩
    rwa [Nat.add_sub_cancel_left]

theorem rating_reviewByRules (file : ChangedFile) :
    (reviewByRules file).rating = rate (reviewByRules file).issues (!file.patch.isEmpty) := by
  unfold reviewByRules
  split
  · rename_i empty
    rw [empty]
    rfl
  · rename_i filled
    rw [Bool.not_eq_true] at filled
    rw [filled]
    rfl

end Scan
end PatchReview
