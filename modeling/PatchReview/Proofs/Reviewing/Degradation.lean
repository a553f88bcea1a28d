import Mathlib.Data.List.Basic
import PatchReview.Proofs.Reviewing.EachFile
import PatchReview.Proofs.Text.Trim

-- Reviews by a language model that may fail.  A failure stays with the file that it happened to:
-- the replies go to the files in their order, one each, and the rules take over for just those
-- files whose reply says nothing.
namespace PatchReview

namespace Analyzer

variable {key : Text} {file : ChangedFile}

def question (file : ChangedFile) : Text :=
  Prompt.user file.filename file.status.name file.patch

-- The review that a file gets with a reply, or with none.
def replied (reply : Option ModelReply) (file : ChangedFile) : FileReview :=
  match reply with
  | some (.text (some said)) =>
    if said.any (!Text.isBlank ·) then Prose.parse file.filename said
    else Scan.reviewByRules file
  | _ => Scan.reviewByRules file

theorem settled_said (file : ChangedFile) (said : Text) :
    (readReply file said).settled file = replied (some (.text (some said))) file := by
  have blank : (Text.trim said).isEmpty = true ↔ ¬said.any (!Text.isBlank ·) = true := by
    rw [List.isEmpty_iff, Text.trim_eq_nil_iff]
    simp
  rw [settled_readReply]
  unfold replied
  dsimp only
  by_cases silent : (Text.trim said).isEmpty = true
  · rw [if_pos silent, if_neg (blank.mp silent)]
  · rw [if_neg silent, if_pos (not_not.mp (mt blank.mpr silent))]

-- The question is asked, the next reply is used up, and it alone decides the review.
theorem attempt_keyed {w : World} (given : key ≠ []) (reaches : w.Reaches .languageModel key)
    (model : Text) (file : ChangedFile) :
    ∃ outcome,
      ((gemini (some key) model false).attempt file).on w =
        (.ok outcome, LanguageModel.asked Prompt.system (question file) key model w) ∧
      outcome.settled file = replied w.modelReplies.head? file := by
  have asked : (obtainReply (some key) model false file).on w = _ :=
    LanguageModel.ask_on given reaches Prompt.system (question file) model
  rw [attempt_gemini, asked]
  unfold LanguageModel.nextOf
  cases w.modelReplies with
  | nil => exact ⟨_, rfl, rfl⟩
  | cons reply rest =>
    match reply with
    | .failed message => exact ⟨_, rfl, rfl⟩
    | .text none => exact ⟨_, rfl, rfl⟩
    | .text (some said) => exact ⟨_, rfl, settled_said file said⟩

-- A key with which no client can be made comes to the same as none.
theorem attempt_unmade {w : World} {message : Text} (given : key ≠ [])
    (another : w.modelClient ≠ some key) (why : w.unmakeable .languageModel key = some message)
    (model : Text) (file : ChangedFile) :
    ∃ outcome, ((gemini (some key) model false).attempt file).on w = (.ok outcome, w) ∧
      outcome.settled file = Scan.reviewByRules file := by
  have failed : (obtainReply (some key) model false file).on w = (.error (.outside message), w) :=
    LanguageModel.ask_unmade given another why Prompt.system (question file) model
  rw [attempt_gemini, failed]
  exact ⟨_, rfl, rfl⟩

-- Without a key the model is not reached.
theorem attempt_keyless {key : Option Text} (missing : key.getD [] = []) (model : Text)
    (file : ChangedFile) (w : World) :
    ∃ outcome, ((gemini key model false).attempt file).on w = (.ok outcome, w) ∧
      outcome.settled file = Scan.reviewByRules file := by
  have refused : (obtainReply key model false file).on w = (.error (.refused .noModelKey), w) := by
    unfold obtainReply
    rw [missing]
    rfl
  rw [attempt_gemini, refused]
  exact ⟨_, rfl, rfl⟩

end Analyzer

namespace Reviewing

open Analyzer (question replied)

variable {key : Text}

theorem reviewFile_keyed {w : World} (given : key ≠ []) (reaches : w.Reaches .languageModel key)
    (model : Text) (file : ChangedFile) :
    ∃ after,
      (reviewFile (.gemini (some key) model false) file).on w =
        (.ok (entry file (replied w.modelReplies.head? file)), after) ∧
      after.calls = w.calls ++ ((if w.modelClient = some key then [] else [.modelClient key]) ++
        [.generate model Prompt.system (question file)]) ∧
      after.modelReplies = w.modelReplies.tail ∧ after.modelClient = some key := by
  unfold reviewFile Analyzer.review Run.info
  rw [Run.on_bind, Run.on_log]
  dsimp only
  generalize entered : ({ w with log := _ } : World) = begun
  have same : begun.Reaches .languageModel key := entered ▸ reaches
  obtain ⟨outcome, ran, settled⟩ := Analyzer.attempt_keyed given same model file
  have calls := LanguageModel.calls_asked Prompt.system (question file) key model begun
  rw [Run.on_bind, Run.on_bind, ran]
  subst entered
  rw [← settled]
  cases outcome with
  | reviewed review => exact ⟨_, rfl, calls, rfl, World.modelClient_keepModel key _⟩
  | degraded reason => exact ⟨_, rfl, calls, rfl, World.modelClient_keepModel key _⟩

-- From the second file on the client is there, so it is made at most once.
theorem reviewAll_keyed {w : World} (given : key ≠ []) (reaches : w.Reaches .languageModel key)
    (model : Text) (files : List ChangedFile) :
    ∃ after,
      (reviewAll (.gemini (some key) model false) files).on w =
        (.ok (files.mapIdx fun i file => entry file (replied w.modelReplies[i]? file)), after) ∧
      after.calls = w.calls ++
        ((if files = [] ∨ w.modelClient = some key then [] else [.modelClient key]) ++
          files.map fun file => .generate model Prompt.system (question file)) := by
  unfold reviewAll
  induction files generalizing w with
  | nil => exact ⟨w, rfl, by simp⟩
  | cons file rest ih =>
    obtain ⟨middle, ran, calls, replies, client⟩ := reviewFile_keyed given reaches model file
    obtain ⟨after, ranRest, callsRest⟩ := ih (w := middle) (.inl client)
    refine ⟨after, ?_, ?_⟩
    · rw [List.mapM_cons, Run.on_bind, ran]
      dsimp only
      rw [Run.on_bind, ranRest, List.mapIdx_cons, replies]
      simp only [List.getElem?_tail, List.head?_eq_getElem?, Run.on_pure]
    · rw [callsRest, calls, client]
      simp

theorem reviewAll_gemini (files : List ChangedFile) (model : Text) (w : World) :
    (∀ key : Text, key ≠ [] → w.Reaches .languageModel key → ∃ after,
      (reviewAll (.gemini (some key) model false) files).on w =
        (.ok (files.mapIdx fun i file => entry file (replied w.modelReplies[i]? file)), after) ∧
      after.calls = w.calls ++
        ((if files = [] ∨ w.modelClient = some key then [] else [.modelClient key]) ++
          files.map fun file => .generate model Prompt.system (question file))) ∧
    ∀ key : Option Text,
      (∀ given, key = some given → given = [] ∨ ¬w.Reaches .languageModel given) →
      ∃ after, (reviewAll (.gemini key model false) files).on w =
          (.ok (files.map fun file => entry file (Scan.reviewByRules file)), after) ∧
        after.calls = w.calls := by
  constructor
  · intro key given reaches
    exact reviewAll_keyed given reaches model files
  · intro key unusable
    have tried (file : ChangedFile) (entries : List LogEntry) : ∃ outcome,
        ((Analyzer.gemini key model false).attempt file).on { w with log := entries } =
          (.ok outcome, { w with log := entries }) ∧
        outcome.settled file = Scan.reviewByRules file := by
      by_cases missing : key.getD [] = []
      · exact Analyzer.attempt_keyless missing model file _
      obtain ⟨given, rfl⟩ : ∃ given, key = some given :=
        Option.ne_none_iff_exists'.mp fun none => missing (none ▸ rfl)
      have keyed : given ≠ [] := missing
      have unreached := (unusable given rfl).resolve_left keyed
      obtain ⟨another, message, why⟩ := (w.reaches_or .languageModel given).resolve_left unreached
      exact Analyzer.attempt_unmade (w := { w with log := entries }) keyed another why model file
    obtain ⟨entries, ran⟩ := reviewAll_byRules tried files
    exact ⟨_, ran, rfl⟩

end Reviewing
end PatchReview
