import PatchReview.Proofs.Rule.Wording
import PatchReview.Proofs.Scan.Issues

-- What every review of a file keeps to, whoever made it, and that the rules keep to it: ratings
-- follow from the issues, no security finding is a mere suggestion, and every text is on one line.
namespace PatchReview

def FileReview.findings (review : FileReview) : List Finding := review.issues ++ review.suggestions

-- What a rule may say: at a line of the patch, or of the whole patch if it is a patch rule.
def ChangedFile.Places (file : ChangedFile) (finding : Finding) : Prop :=
  match finding.line with
  | some number => 1 ≤ number ∧ number ≤ (Text.lines file.patch).length
  | none => ∃ rule ∈ RuleTable.patchRules, finding.rule = some rule.name

-- What a model may say: a security finding is severe, any other is a possible bug.
def Finding.IsModelIssue (issue : Finding) : Prop :=
  (issue.category = .security ∧ issue.severity = .high) ∨ issue.category = .potentialBug

structure FileReview.Sound (file : ChangedFile) (review : FileReview) : Prop where
  filename : review.filename = file.filename
  attention : review.rating = .needsAttention ↔ review.issues ≠ []
  fair : review.rating ≠ .poor
  neutral : review.rating = .neutral ↔ file.patch = [] ∧ review.source = .static
  mild : ∀ suggestion ∈ review.suggestions,
    suggestion.category ≠ .security ∧ suggestion.severity.isHigh = false
  oneLine : ∀ finding ∈ review.findings, '\n' ∉ finding.description
  summary : '\n' ∉ review.summary
  byRules : review.source = .static →
    (∀ issue ∈ review.issues, issue.category = .security) ∧
      ∀ finding ∈ review.findings, file.Places finding
  byModel : review.source = .llm →
    (∀ issue ∈ review.issues, issue.IsModelIssue) ∧
      ∀ finding ∈ review.findings,
        finding.line = none ∧ finding.rule = none ∧ finding.severity ≠ .critical

namespace Scan

open RuleTable

section
variable {issues : List Finding} {hasPatch : Bool}

theorem rate_attention_iff : rate issues hasPatch = .needsAttention ↔ issues ≠ [] := by
  cases issues <;> cases hasPatch <;> simp [rate]

theorem rate_ne_poor : rate issues hasPatch ≠ .poor := by
  cases issues <;> cases hasPatch <;> simp [rate]

theorem rate_neutral_iff : rate issues hasPatch = .neutral ↔ issues = [] ∧ hasPatch = false := by
  cases issues <;> cases hasPatch <;> simp [rate]

end

theorem newline_summaryOf (issues suggestions : List Finding) :
    '\n' ∉ summaryOf issues suggestions := by
  unfold summaryOf
  dsimp only
  split
  · exact Text.not_mem_literal rfl (by decide)
  · split
    · refine List.not_mem_append (List.not_mem_append ?_ (Text.newline_ofNat _)) ?_
      · exact Text.not_mem_literal rfl (by decide)
      · exact Text.not_mem_literal rfl (by decide)
    · refine List.not_mem_append (List.not_mem_append (List.not_mem_append (List.not_mem_append
        (List.not_mem_append (List.not_mem_append ?_ (Text.newline_ofNat _)) ?_)
          (Text.newline_ofNat _)) ?_) (Text.newline_ofNat _)) ?_
      all_goals exact Text.not_mem_literal rfl (by decide)

theorem mem_suggestions {file : ChangedFile} {finding : Finding}
    (member : finding ∈ (reviewByRules file).suggestions) :
    finding ∈ patchFindings file.filename file.patch ∧ isIssue finding = false := by
  unfold reviewByRules at member
  split at member
  · cases member
  · obtain ⟨found, mild⟩ := List.mem_filter.mp member
    exact ⟨found, by simpa using mild⟩

theorem mem_findings {file : ChangedFile} {finding : Finding}
    (member : finding ∈ (reviewByRules file).findings) :
    finding ∈ patchFindings file.filename file.patch := by
  rcases List.mem_append.mp member with issue | suggestion
  · exact (mem_issues.mp issue).2.1
  · exact (mem_suggestions suggestion).1

theorem places_atLine {file : ChangedFile} {i : Nat} {line : Text} {following : Option Text}
    {finding : Finding} (place : (Text.lines file.patch)[i]? = some line)
    (member : finding ∈ atLine (1 + i) line following) :
    file.Places finding ∧ '\n' ∉ finding.description := by
  have inside := Text.not_mem_of_mem_lines (List.mem_of_getElem? place)
  obtain ⟨within, -⟩ := List.getElem?_eq_some_iff.mp place
  have bounds : (1 : Int) ≤ (1 + i : Nat) ∧
      ((1 + i : Nat) : Int) ≤ (Text.lines file.patch).length := by omega
  rcases mem_atLine.mp member with ⟨rule, listed, -, rfl⟩ | ⟨rule, listed, -, rfl⟩
  · exact ⟨bounds, RuleInfo.newline_wording (oneLine_lineRules rule listed) inside⟩
  · exact ⟨bounds, RuleInfo.newline_wording (oneLine_lookaheadRules rule listed) inside⟩

theorem places_findings {file : ChangedFile} {finding : Finding}
    (member : finding ∈ (reviewByRules file).findings) :
    file.Places finding ∧ '\n' ∉ finding.description := by
  rcases mem_patchFindings.mp (mem_findings member) with inLine | ⟨rule, listed, -, -, rfl⟩
  · obtain ⟨i, line, place, there⟩ := mem_lineFindings.mp inLine
    exact places_atLine place there
  · exact ⟨⟨rule, listed, rfl⟩, newline_finding listed⟩

theorem source_reviewByRules (file : ChangedFile) : (reviewByRules file).source = .static := by
  unfold reviewByRules
  split <;> rfl

theorem newline_summary (file : ChangedFile) : '\n' ∉ (reviewByRules file).summary := by
  have bare : '\n' ∉ withoutDiff := Text.not_mem_literal rfl (by decide)
  unfold reviewByRules
  split
  · exact bare
  · exact newline_summaryOf _ _

theorem sound_reviewByRules (file : ChangedFile) : (reviewByRules file).Sound file where
  filename := filename_reviewByRules file
  attention := by rw [rating_reviewByRules, rate_attention_iff]
  fair := by
    rw [rating_reviewByRules]
    exact rate_ne_poor
  neutral := by
    rw [rating_reviewByRules, rate_neutral_iff, source_reviewByRules]
    constructor
    · rintro ⟨-, empty⟩
      exact ⟨by simpa using empty, rfl⟩
    · rintro ⟨empty, -⟩
      refine ⟨?_, by simp [empty]⟩
      by_contra some
      obtain ⟨finding, member⟩ := List.exists_mem_of_ne_nil _ some
      exact (mem_issues.mp member).1 empty
  mild := by
    intro suggestion member
    have mild := (mem_suggestions member).2
    simpa [isIssue] using mild
  oneLine := fun finding member => (places_findings member).2
  summary := newline_summary file
  byRules := fun _ =>
    ⟨fun issue member => (mem_issues.mp member).2.2,
      fun finding member => (places_findings member).1⟩
  byModel := by
    rw [source_reviewByRules]
    intro made
    cases made

end Scan
end PatchReview
