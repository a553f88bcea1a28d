import PatchReview.Proofs.Pattern.InLine
import PatchReview.Proofs.Scan.Soundness
import PatchReview.Prose

-- Whatever a model writes, the review read from it keeps to what every review of a file keeps to:
-- what a bullet captures and what a line holds stays in one line, and words decide how severe a
-- finding is.
namespace PatchReview
namespace Prose

-- What is said of a finding wherever in the prose it was found: no line, no rule stands behind it.
structure IsWritten (finding : Finding) : Prop where
  oneLine : '\n' ∉ finding.description
  line : finding.line = none
  rule : finding.rule = none
  severity : finding.severity ≠ .critical

theorem severityOf_ne_critical (text : Text) : severityOf text ≠ .critical := by
  unfold severityOf
  dsimp only
  split
  · decide
  · split <;> decide

theorem bulletedIssue_secure {description : Text} (worded : securityWord.foundIn description) :
    bulletedIssue description = { category := .security, severity := .high, description } := by
  have severe := severityOf_ne_critical description
  simp only [bulletedIssue, worded, if_true]
  cases given : severityOf description with
  | critical => exact absurd given severe
  | high | medium | low => rfl

theorem bulletedIssue_plain {description : Text}
    (unworded : securityWord.foundIn description = false) :
    bulletedIssue description =
      { category := .potentialBug, severity := severityOf description, description } := by
  simp [bulletedIssue, unworded]

theorem isWritten_bulletedIssue {description : Text} (inside : '\n' ∉ description) :
    IsWritten (bulletedIssue description) ∧ (bulletedIssue description).IsModelIssue := by
  cases worded : securityWord.foundIn description with
  | true =>
    rw [bulletedIssue_secure worded]
    exact ⟨⟨inside, rfl, rfl, nofun⟩, .inl ⟨rfl, rfl⟩⟩
  | false =>
    rw [bulletedIssue_plain worded]
    exact ⟨⟨inside, rfl, rfl, severityOf_ne_critical description⟩, .inr rfl⟩

theorem newline_bullet {words : List Text} {text : Text} {found : Capture.Found}
    (member : found ∈ (bulleted words).all text) : '\n' ∉ Text.trim found.text := by
  obtain ⟨c, matched⟩ := Capture.exists_at_of_mem_all member
  exact Text.newline_trim (Capture.newline_text (p := bulleted words) rfl matched)

theorem mem_of_mem_placed {offset start : Nat} {line : Text} {lines : List Text}
    (member : (start, line) ∈ placed offset lines) : line ∈ lines := by
  induction lines generalizing offset with
  | nil => cases member
  | cons first rest ih =>
    rcases List.mem_cons.mp member with same | later
    · cases same
      exact List.mem_cons_self
    · exact List.mem_cons_of_mem _ (ih later)

theorem newline_openLines {taken : List Nat} {text line : Text}
    (member : line ∈ openLines taken text) : '\n' ∉ line := by
  obtain ⟨⟨start, whole⟩, place, kept⟩ := List.mem_filterMap.mp member
  dsimp only at kept
  split at kept
  · cases kept
  · cases kept
    exact Text.newline_trim (Text.not_mem_of_mem_lines (mem_of_mem_placed place))

theorem newline_findSummary {text : Text} {found : Capture.Found}
    (matched : findSummary text = some found) : '\n' ∉ Text.trim found.text := by
  have first {p : Capture} (words : p.body = firstWords)
      (matched : p.first? text = some found) : '\n' ∉ found.text := by
    obtain ⟨_, _, -, here⟩ := Capture.exists_at_of_firstFrom? matched
    exact Capture.newline_text (words ▸ rfl) here
  apply Text.newline_trim
  unfold findSummary at matched
  cases colon : summaryColon.first? text with
  | some one =>
    rw [colon] at matched
    cases matched
    exact first rfl colon
  | none =>
    rw [colon] at matched
    exact first rfl matched

section
variable (filename text : Text)

theorem newline_summary : '\n' ∉ (parse filename text).summary := by
  unfold parse summary?
  dsimp only
  split
  · exact Text.not_mem_literal rfl (by decide)
  · cases matched : findSummary text with
    | none => exact List.not_mem_nil
    | some found => exact newline_findSummary matched

theorem issues_written {issue : Finding} (member : issue ∈ (parse filename text).issues) :
    IsWritten issue ∧ issue.IsModelIssue := by
  rcases List.mem_append.mp member with bullet | worded
  · obtain ⟨found, among, rfl⟩ := List.mem_map.mp bullet
    exact isWritten_bulletedIssue (newline_bullet among)
  · obtain ⟨line, among, rfl⟩ := List.mem_map.mp worded
    have inside := newline_openLines (List.mem_of_mem_filter among)
    exact ⟨⟨inside, rfl, rfl, nofun⟩, .inl ⟨rfl, rfl⟩⟩

theorem suggestions_written {suggestion : Finding}
    (member : suggestion ∈ (parse filename text).suggestions) :
    IsWritten suggestion ∧ suggestion.category ≠ .security ∧ suggestion.severity = .low := by
  rcases List.mem_append.mp member with bullet | worded
  · obtain ⟨found, among, rfl⟩ := List.mem_map.mp bullet
    have inside := newline_bullet (List.mem_of_mem_filter among)
    exact ⟨⟨inside, rfl, rfl, nofun⟩, nofun, rfl⟩
  · obtain ⟨line, among, rfl⟩ := List.mem_map.mp worded
    have inside := newline_openLines (List.mem_of_mem_filter among)
    exact ⟨⟨inside, rfl, rfl, nofun⟩, nofun, rfl⟩

theorem findings_written {finding : Finding} (member : finding ∈ (parse filename text).findings) :
    IsWritten finding := by
  rcases List.mem_append.mp member with issue | suggestion
  · exact (issues_written filename text issue).1
  · exact (suggestions_written filename text suggestion).1

end

theorem sound_parse (file : ChangedFile) (text : Text) :
    (parse file.filename text).Sound file where
  filename := rfl
  attention := Scan.rate_attention_iff
  fair := Scan.rate_ne_poor
  neutral := by
    constructor
    · intro neutral
      exact absurd (Scan.rate_neutral_iff.mp neutral).2 nofun
    · exact fun static => absurd static.2 nofun
  mild := by
    intro suggestion member
    obtain ⟨-, other, low⟩ := suggestions_written _ _ member
    exact ⟨other, by rw [low]; rfl⟩
  oneLine := fun finding member => (findings_written _ _ member).oneLine
  summary := newline_summary _ _
  byRules := nofun
  byModel := fun _ =>
    ⟨fun issue member => (issues_written _ _ member).2, fun finding member =>
      have written := findings_written _ _ member
      ⟨written.line, written.rule, written.severity⟩⟩

end Prose
end PatchReview
