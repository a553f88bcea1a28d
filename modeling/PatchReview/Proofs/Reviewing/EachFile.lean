import PatchReview.Proofs.LanguageModel.Asking
import PatchReview.Proofs.Scan.Findings
import PatchReview.Reviewing

-- Files reviewed one after another.  An analyzer may fail on a file, but reviewing the file does
-- not: whatever happens to one file, every file gets an entry of its own.
namespace PatchReview

-- The rules take over where the analyzer had nothing to say.
def Outcome.settled (file : ChangedFile) : Outcome → FileReview
  | .reviewed review => review
  | .degraded _ => Scan.reviewByRules file

namespace Analyzer

variable {file : ChangedFile} {w after : World}

theorem attempt_static (file : ChangedFile) (w : World) :
    (static.attempt file).on w = (.ok (.reviewed (Scan.reviewByRules file)), w) := rfl

theorem attempt_gemini (key : Option Text) (model : Text) (canned : Bool) (file : ChangedFile)
    (w : World) :
    ((gemini key model canned).attempt file).on w =
      match (obtainReply key model canned file).on w with
      | (.ok reply, after) => (.ok (readReply file reply), after)
      | (.error fault, after) => (.ok (.degraded fault.message), after) := by
  unfold attempt
  rw [Run.on_tryCatch, Run.on_map]
  rcases (obtainReply key model canned file).on w with ⟨fault | reply, after⟩ <;> rfl

theorem settled_readReply (file : ChangedFile) (reply : Text) :
    (readReply file reply).settled file =
      if (Text.trim reply).isEmpty then Scan.reviewByRules file
      else Prose.parse file.filename reply := by
  unfold readReply
  split <;> rfl

-- The key with which an analyzer asks; the empty one asks nothing.
def key : Analyzer → Text
  | static => []
  | gemini key _ _ => key.getD []

-- Every attempt ends with a review by the rules or one read from a reply, and only asks.
theorem attempt_settles {R : World → World → Prop} [IsPreorder World R] (about : FileReview → Prop)
    {analyzer : Analyzer}
    (asks : ∀ system user model, Run.Moves R (LanguageModel.ask system user analyzer.key model))
    (byRules : about (Scan.reviewByRules file))
    (byModel : ∀ reply, about (Prose.parse file.filename reply)) :
    Run.Gives (fun w outcome after => about (outcome.settled file) ∧ R w after)
      (analyzer.attempt file) := by
  intro w
  cases analyzer with
  | static => exact ⟨_, w, rfl, byRules, refl_of R w⟩
  | gemini key model canned =>
    have moved : Run.Moves R (obtainReply key model canned file) := by
      unfold obtainReply
      split
      · exact .pure _
      · exact asks _ _ model
    have moved := moved w
    rw [attempt_gemini]
    generalize (obtainReply key model canned file).on w = ended at moved ⊢
    rcases ended with ⟨fault | reply, after⟩
    · exact ⟨_, after, rfl, byRules, moved⟩
    · refine ⟨_, after, rfl, ?_, moved⟩
      rw [settled_readReply]
      split
      · exact byRules
      · exact byModel reply

theorem attempt_gives {R : World → World → Prop} [IsPreorder World R] {analyzer : Analyzer}
    (asks : ∀ system user model, Run.Moves R (LanguageModel.ask system user analyzer.key model))
    (file : ChangedFile) :
    Run.Gives (fun w outcome after => (outcome.settled file).filename = file.filename ∧ R w after)
      (analyzer.attempt file) :=
  attempt_settles (fun review => review.filename = file.filename) asks
    (Scan.filename_reviewByRules file) fun _ => rfl

-- What is known of an attempt is known of the review, whatever is logged after it.
theorem review_gives {analyzer : Analyzer} {P : World → FileReview → World → Prop}
    (blind : ∀ w analysis after later, P w analysis after →
      P w analysis { after with log := later })
    (tried : Run.Gives (fun w outcome after => P w (outcome.settled file) after)
      (analyzer.attempt file)) :
    Run.Gives P (analyzer.review file) := by
  intro w
  unfold review
  obtain ⟨outcome, after, ran, known⟩ := tried w
  rw [Run.on_bind, ran]
  cases outcome with
  | reviewed analysis => exact ⟨_, after, rfl, known⟩
  | degraded reason => exact ⟨_, _, rfl, blind w _ after _ known⟩

end Analyzer

namespace Reviewing

-- What is kept of a file and its review.
def entry (file : ChangedFile) (analysis : FileReview) : ReviewedFile :=
  { filename := file.filename, analysis
    changes := some ⟨some file.status.name, file.additions, file.deletions⟩ }

-- What is known of the review of a file does not depend on what was logged before or after.
theorem reviewFile_gives {analyzer : Analyzer} {file : ChangedFile}
    {P : World → FileReview → World → Prop}
    (blind : ∀ w analysis after before later, P { w with log := before } analysis after →
      P w analysis { after with log := later })
    (tried : Run.Gives (fun w outcome after => P w (outcome.settled file) after)
      (analyzer.attempt file)) :
    Run.Gives (fun w e after => ∃ analysis, P w analysis after ∧ e = entry file analysis)
      (reviewFile analyzer file) := by
  intro w
  obtain ⟨analysis, after, ran, known⟩ := Analyzer.review_gives
    (fun w analysis after later => blind w analysis after w.log later) tried { w with log := _ }
  unfold reviewFile Run.info
  rw [Run.on_bind, Run.on_log]
  dsimp only
  rw [Run.on_bind, ran]
  exact ⟨_, _, rfl, analysis, blind w _ after _ _ known, rfl⟩

-- The entry of a file, with a review of which something is known.
def EntryOf (about : ChangedFile → FileReview → Prop) (file : ChangedFile) (e : ReviewedFile) :
    Prop :=
  ∃ analysis, about file analysis ∧ e = entry file analysis

theorem reviewAll_gives {R : World → World → Prop} [IsPreorder World R] (blind : Run.LogBlind R)
    {analyzer : Analyzer} (about : ChangedFile → FileReview → Prop)
    (tried : ∀ file, Run.Gives
      (fun w outcome after => about file (outcome.settled file) ∧ R w after)
      (analyzer.attempt file)) (files : List ChangedFile) :
    Run.Gives (fun w given after => List.Forall₂ (EntryOf about) files given ∧ R w after)
      (reviewAll analyzer files) := by
  refine Run.Gives.mapM (fun file => ?_) files
  intro w
  obtain ⟨e, after, ran, analysis, ⟨known, moved⟩, rfl⟩ :=
    reviewFile_gives (P := fun w analysis after => about file analysis ∧ R w after)
      (fun w _ after before later fits => ⟨fits.1, blind w after before later fits.2⟩)
      (tried file) w
  exact ⟨_, after, ran, ⟨analysis, known, rfl⟩, moved⟩

-- Where only the rules can speak, the reviews are known and nothing happens but what is noted.
theorem reviewFile_byRules {analyzer : Analyzer} {file : ChangedFile} {w : World}
    (tried : ∀ entries, ∃ outcome,
      (analyzer.attempt file).on { w with log := entries } =
        (.ok outcome, { w with log := entries }) ∧
      outcome.settled file = Scan.reviewByRules file) :
    ∃ entries, (reviewFile analyzer file).on w =
      (.ok (entry file (Scan.reviewByRules file)), { w with log := entries }) := by
  unfold reviewFile Analyzer.review Run.info
  rw [Run.on_bind, Run.on_log]
  dsimp only
  obtain ⟨outcome, ran, settled⟩ := tried (w.log ++ _)
  rw [Run.on_bind, Run.on_bind, ran, ← settled]
  cases outcome with
  | reviewed review => exact ⟨_, rfl⟩
  | degraded reason =>
    rw [Outcome.settled]
    exact ⟨_, rfl⟩

theorem reviewAll_byRules {analyzer : Analyzer} {w : World}
    (tried : ∀ file entries, ∃ outcome,
      (analyzer.attempt file).on { w with log := entries } =
        (.ok outcome, { w with log := entries }) ∧
      outcome.settled file = Scan.reviewByRules file) (files : List ChangedFile) :
    ∃ entries, (reviewAll analyzer files).on w =
      (.ok (files.map fun file => entry file (Scan.reviewByRules file)),
        { w with log := entries }) := by
  unfold reviewAll
  induction files generalizing w with
  | nil => exact ⟨w.log, rfl⟩
  | cons file rest ih =>
    obtain ⟨entries, ran⟩ := reviewFile_byRules (tried file)
    obtain ⟨later, ranRest⟩ := ih (w := { w with log := entries }) tried
    refine ⟨later, ?_⟩
    rw [List.mapM_cons, Run.on_bind, ran]
    dsimp only
    rw [Run.on_bind, ranRest]
    rfl

theorem sumUp_on (files : List ReviewedFile) (scope : Scope) (pull : Option PullHeading)
    (w : World) :
    ∃ review entries, (sumUp files scope pull).on w = (.ok review, { w with log := entries }) ∧
      review.files = files ∧ review.stats = .ofFiles files :=
  ⟨_, _, rfl, rfl, rfl⟩

end Reviewing
end PatchReview
