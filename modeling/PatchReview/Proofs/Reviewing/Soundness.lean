import Mathlib.Data.List.Perm.Basic
import PatchReview.Proofs.Prose.Soundness
import PatchReview.Proofs.Reviewing.EachFile
import PatchReview.Verdict

-- Every review of a file is sound, whichever analyzer made it and whatever the model replied, so
-- the security findings of a whole review are all there is to find about security.
namespace PatchReview

-- Each security finding of a review with the file it is about, wherever the review keeps it.
def ReviewSet.securityFindings (review : ReviewSet) : List (Text × Finding) :=
  review.files.flatMap fun file =>
    (file.analysis.findings.filter (·.category = .security)).map fun finding =>
      (file.filename, finding)

theorem FileReview.Sound.securityIssues_eq {file : ChangedFile} {review : FileReview}
    (sound : review.Sound file) :
    review.securityIssues = review.findings.filter (·.category = .security) := by
  have none : review.suggestions.filter (·.category = .security) = [] := by
    rw [List.filter_eq_nil_iff]
    intro suggestion member
    simpa using (sound.mild suggestion member).1
  unfold securityIssues findings
  rw [List.filter_append, none, List.append_nil]

namespace Analyzer

theorem attempt_sound (analyzer : Analyzer) (file : ChangedFile) :
    Run.Gives (fun w outcome after =>
      (outcome.settled file).Sound file ∧ Adds Call.isConsulting w after)
      (analyzer.attempt file) :=
  attempt_settles (·.Sound file)
    (fun _ _ _ => LanguageModel.ask_moves fun _ => LanguageModel.asked_adds _ _ _ _)
    (Scan.sound_reviewByRules file) (Prose.sound_parse file)

end Analyzer

namespace Verdict

theorem wantedSeverity_name (wanted : Option Severity) :
    wantedSeverity (wanted.map Named.name) = .ok wanted := by
  rcases wanted with _ | _ | _ | _ | _ <;> rfl

-- No security finding escapes, unless it is of another severity than the one asked for.
theorem mostSevereFirst_perm {review : ReviewSet}
    (sound : ∀ e ∈ review.files, ∃ file, e.analysis.Sound file) (wanted : Option Severity) :
    ∃ found, mostSevereFirst review (wanted.map Named.name) = .ok found ∧
      found.Perm (review.securityFindings.filter fun pair =>
        wanted.all (· = pair.2.severity)) := by
  have pairs : securityPairs review = review.securityFindings := by
    unfold securityPairs ReviewSet.securityFindings
    apply List.flatMap_congr
    intro e member
    obtain ⟨file, sound⟩ := sound e member
    rw [sound.securityIssues_eq]
  unfold mostSevereFirst
  rw [wantedSeverity_name, pairs]
  exact ⟨_, rfl, List.mergeSort_perm _ _⟩

end Verdict

namespace Reviewing

theorem entries_sound {files : List ChangedFile} {given : List ReviewedFile}
    (entries : List.Forall₂ (EntryOf fun file analysis => analysis.Sound file) files given) :
    ∀ e ∈ given, ∃ file, e.analysis.Sound file := by
  intro e member
  obtain ⟨file, -, analysis, sound, rfl⟩ := (forall₂_partners entries).2 e member
  exact ⟨file, sound⟩

theorem review_sound (analyzer : Analyzer) (w : World) :
    (∀ file, ∃ review after,
      (analyzer.review file).on w = (.ok review, after) ∧ review.Sound file) ∧
    ∀ (files : List ChangedFile) (scope : Scope) (pull : Option PullHeading), ∃ review after,
      Run.on (do sumUp (← reviewAll analyzer files) scope pull) w = (.ok review, after) ∧
      List.Forall₂ (EntryOf fun file analysis => analysis.Sound file) files review.files ∧
      ∀ wanted : Option Severity, ∃ found,
        Verdict.mostSevereFirst review (wanted.map Named.name) = .ok found ∧
        found.Perm (review.securityFindings.filter fun pair =>
          wanted.all (· = pair.2.severity)) := by
  constructor
  · intro file
    let Fits (w : World) (review : FileReview) (after : World) : Prop :=
      review.Sound file ∧ Adds Call.isConsulting w after
    obtain ⟨review, after, ran, sound, -⟩ := Analyzer.review_gives (P := Fits)
      (fun w _ after later fits => ⟨fits.1, Adds.blind w after w.log later fits.2⟩)
      (analyzer.attempt_sound file) w
    exact ⟨review, after, ran, sound⟩
  · intro files scope pull
    obtain ⟨given, middle, ran, entries, -⟩ :=
      reviewAll_gives Adds.blind _ analyzer.attempt_sound files w
    obtain ⟨review, entry, summed, content, -⟩ := sumUp_on given scope pull middle
    rw [← content] at entries
    refine ⟨review, { middle with log := entry }, ?_, entries,
      Verdict.mostSevereFirst_perm (entries_sound entries)⟩
    rw [Run.on_bind, ran]
    exact summed

end Reviewing
end PatchReview
