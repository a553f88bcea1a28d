import Mathlib.Data.List.Basic
import PatchReview.Scan

-- Where the findings of a scan come from.  Every finding is made by a rule, and a rule that is
-- severe is a security rule, so the issues of a file are its security findings.
namespace PatchReview

namespace RuleTable

theorem lineRules_severe : ∀ rule ∈ lineRules, rule.severity.isHigh = true →
    rule.category = .security := by decide

-- The rules beyond single lines only make suggestions.
theorem lookaheadRules_mild : ∀ rule ∈ lookaheadRules,
    rule.category ≠ .security ∧ rule.severity.isHigh = false := by decide

theorem patchRules_mild : ∀ rule ∈ patchRules,
    rule.category ≠ .security ∧ rule.severity.isHigh = false := by decide

theorem security_needs_text : ∀ rule ∈ lineRules, rule.category = .security →
    rule.fires [] = false := by decide +kernel

end RuleTable

namespace Scan

open RuleTable

theorem mem_atLine {number : Nat} {line : Text} {following : Option Text} {finding : Finding} :
    finding ∈ atLine number line following ↔
      (∃ rule ∈ lineRules, rule.fires line = true ∧ finding = rule.finding number line) ∨
        ∃ rule ∈ lookaheadRules, rule.fires line following = true ∧
          finding = rule.finding number line := by
  unfold atLine
  simp only [List.mem_append, List.mem_map, List.mem_filter, and_assoc, @eq_comm _ finding]

-- The findings of some lines are those of each line, told its number and the line after it.
theorem mem_fromLine {number : Nat} {lines : List Text} {finding : Finding} :
    finding ∈ fromLine number lines ↔
      ∃ i line, lines[i]? = some line ∧ finding ∈ atLine (number + i) line lines[i + 1]? := by
  induction lines generalizing number with
  | nil => simp [fromLine]
  | cons first rest ih =>
    unfold fromLine
    rw [List.mem_append, ih]
    constructor
    · rintro (here | ⟨i, line, found, later⟩)
      · exact ⟨0, first, rfl, by simpa [List.head?_eq_getElem?] using here⟩
      · refine ⟨i + 1, line, found, ?_⟩
        rwa [Nat.add_right_comm, Nat.add_assoc] at later
    · rintro ⟨_ | i, line, found, member⟩
      · cases Option.some.inj found
        exact .inl (by simpa [List.head?_eq_getElem?] using member)
      · refine .inr ⟨i, line, found, ?_⟩
        rwa [Nat.add_right_comm, Nat.add_assoc]

theorem mem_lineFindings {lines : List Text} {finding : Finding} :
    finding ∈ lineFindings lines ↔
      ∃ i line, lines[i]? = some line ∧ finding ∈ atLine (1 + i) line lines[i + 1]? :=
  mem_fromLine

theorem mem_patchFindings {filename patch : Text} {finding : Finding} :
    finding ∈ patchFindings filename patch ↔
      finding ∈ lineFindings (Text.lines patch) ∨
        ∃ rule ∈ patchRules, rule.concerns filename = true ∧ rule.fires patch = true ∧
          finding = rule.finding := by
  unfold patchFindings
  simp only [List.mem_append, List.mem_map, List.mem_filter, Bool.and_eq_true, and_assoc,
    @eq_comm _ finding]

theorem isIssue_atLine {number : Nat} {line : Text} {following : Option Text} {finding : Finding}
    (member : finding ∈ atLine number line following) :
    isIssue finding = true ↔ finding.category = .security := by
  rcases mem_atLine.mp member with ⟨rule, listed, -, rfl⟩ | ⟨rule, listed, -, rfl⟩
  · unfold isIssue
    rw [Bool.or_eq_true, decide_eq_true_eq]
    exact or_iff_left_of_imp (lineRules_severe rule listed)
  · obtain ⟨other, mild⟩ := lookaheadRules_mild rule listed
    simp [isIssue, RuleInfo.finding, other, mild]

theorem isIssue_patchFindings {filename patch : Text} {finding : Finding}
    (member : finding ∈ patchFindings filename patch) :
    isIssue finding = true ↔ finding.category = .security := by
  rcases mem_patchFindings.mp member with inLine | ⟨rule, listed, -, -, rfl⟩
  · obtain ⟨i, line, -, there⟩ := mem_lineFindings.mp inLine
    exact isIssue_atLine there
  · obtain ⟨other, mild⟩ := patchRules_mild rule listed
    simp [isIssue, PatchRule.finding, other, mild]

theorem filename_reviewByRules (file : ChangedFile) :
    (reviewByRules file).filename = file.filename := by
  unfold reviewByRules
  split <;> rfl

theorem mem_issues {file : ChangedFile} {finding : Finding} :
    finding ∈ (reviewByRules file).issues ↔
      file.patch ≠ [] ∧ finding ∈ patchFindings file.filename file.patch ∧
        finding.category = .security := by
  unfold reviewByRules
  split
  · rename_i empty
    simp [List.isEmpty_iff.mp empty]
  · rename_i filled
    have patched : file.patch ≠ [] := fun empty => filled (by simp [empty])
    simp only [List.mem_filter, patched, ne_eq, not_false_eq_true, true_and]
    exact and_congr_right isIssue_patchFindings

-- Every issue is a security finding.
theorem securityIssues_reviewByRules (file : ChangedFile) :
    (reviewByRules file).securityIssues = (reviewByRules file).issues := by
  unfold FileReview.securityIssues
  rw [List.filter_eq_self]
  intro finding member
  exact decide_eq_true (mem_issues.mp member).2.2

-- Some line of the patch matches the pattern of a security rule.
def HasSecurityLine (file : ChangedFile) : Prop :=
  ∃ line ∈ Text.lines file.patch, ∃ rule ∈ lineRules, rule.category = .security ∧
    rule.fires line = true

theorem HasSecurityLine.patched {file : ChangedFile} (touches : HasSecurityLine file) :
    file.patch ≠ [] := by
  intro empty
  obtain ⟨line, among, rule, listed, secures, fires⟩ := touches
  rw [empty] at among
  cases List.mem_singleton.mp among
  rw [security_needs_text rule listed secures] at fires
  cases fires

theorem issues_ne_nil_iff (file : ChangedFile) :
    (reviewByRules file).issues ≠ [] ↔ HasSecurityLine file := by
  constructor
  · intro some
    obtain ⟨finding, member⟩ := List.exists_mem_of_ne_nil _ some
    obtain ⟨-, found, secures⟩ := mem_issues.mp member
    rcases mem_patchFindings.mp found with inLine | ⟨rule, listed, -, -, rfl⟩
    · obtain ⟨i, line, place, there⟩ := mem_lineFindings.mp inLine
      rcases mem_atLine.mp there with ⟨rule, listed, fires, rfl⟩ | ⟨rule, listed, -, rfl⟩
      · exact ⟨line, List.mem_of_getElem? place, rule, listed, secures, fires⟩
      · exact absurd secures (lookaheadRules_mild rule listed).1
    · exact absurd secures (patchRules_mild rule listed).1
  · intro touches
    have patched := touches.patched
    obtain ⟨line, among, rule, listed, secures, fires⟩ := touches
    obtain ⟨i, place⟩ := List.mem_iff_getElem?.mp among
    have there : rule.finding (1 + i) line ∈ atLine (1 + i) line (Text.lines file.patch)[i + 1]? :=
      mem_atLine.mpr (.inl ⟨rule, listed, fires, rfl⟩)
    have found := mem_lineFindings.mpr ⟨i, line, place, there⟩
    exact List.ne_nil_of_mem (mem_issues.mpr ⟨patched, mem_patchFindings.mpr (.inl found), secures⟩)

end Scan
end PatchReview
