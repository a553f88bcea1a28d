import PatchReview.Proofs.Git.Plan
import PatchReview.Reviewing

-- Each source of changes carries out its plan.  What a command prints is decided by the next reply,
-- and what is read of the untracked files by the file tree; a refusal is told with the source in
-- front.
namespace PatchReview

open Run (Decided Looks)

namespace Git

variable {w after : World} {directory : Text}

-- What a reply makes of a command.
def outcomeOf (arguments : List Text) : GitReply → Except Fault Text
  | .output text => .ok text
  | .failed status complaint =>
    .error (.refused (.gitFailed arguments (failureDetail status complaint)))
  | .undecodable cause => .error (.refused (.outputNotText cause))
  | .missing => .error (.refused .gitMissing)
  | .notStarted cause => .error cause.fault

theorem outcomeOf_ends (arguments : List Text) (reply : GitReply) :
    (∃ text, reply = .output text) ∨ (∀ text, reply ≠ .output text) ∧
      ∃ fault, outcomeOf arguments reply = .error fault ∧ reply.FailsBy fault := by
  cases reply with
  | output text => exact .inl ⟨text, rfl⟩
  | failed | undecodable | missing => exact .inr ⟨nofun, _, rfl, .refused _ rfl⟩
  | notStarted cause =>
    cases cause with
    | null => exact .inr ⟨nofun, _, rfl, .refused _ rfl⟩
    | file | outside => exact .inr ⟨nofun, _, rfl, .strayed rfl⟩

theorem nextReply_on (arguments : List Text) (directory : Text) (w : World) :
    (nextReply arguments directory).on w =
      (.ok (w.reply 0),
        { w with gitReplies := w.gitReplies.tail, files := w.left arguments directory }) := by
  have reply : w.gitReplies.headD (.output []) = w.reply 0 := by
    unfold World.reply
    cases w.gitReplies <;> rfl
  unfold World.left
  rw [← reply]
  rfl

theorem command_on (arguments : List Text) (directory : Text) (w : World) :
    (command arguments directory).on w =
      (outcomeOf arguments (w.reply 0), w.asking arguments directory) := by
  unfold command
  rw [Run.on_bind, Run.on_record]
  dsimp only
  rw [Run.on_bind, nextReply_on]
  dsimp only
  have same : World.reply { w with calls := w.calls ++ [.git arguments directory] } 0 =
      w.reply 0 := rfl
  rw [same]
  cases w.reply 0 <;> rfl

-- However a command ends, git was asked.
theorem command_moves {R : World → World → Prop} {arguments : List Text}
    (asked : ∀ w : World, R w (w.asking arguments directory)) :
    Run.Moves R (command arguments directory) := by
  intro w
  rw [command_on]
  exact asked w

-- An action that carries out one step of a plan.
def Performs (directory : Text) (step : Step) (action : Run (List ChangedFile)) : Prop :=
  ∀ w, ∃ outcome entries,
    action.on w = (outcome, { w.asking step.arguments directory with log := entries }) ∧
    Performed (w.left step.arguments directory) directory (w.reply 0) step outcome

-- What follows a command, if it prints something, decides whether its step fails.
theorem performs_command (step : Step) {next : Text → Run (List ChangedFile)}
    (reads : ∀ output, Looks (fun tree =>
      Decided (step.Unusable tree directory output) (step.changes tree directory output))
      (next output)) :
    Performs directory step (command step.arguments directory >>= next) := by
  intro w
  rw [Run.on_bind, command_on]
  rcases outcomeOf_ends step.arguments (w.reply 0) with
    ⟨text, replied⟩ | ⟨silent, fault, ended, told⟩
  · obtain ⟨outcome, entries, ran, decided⟩ := reads text (w.asking step.arguments directory)
    rw [replied]
    refine ⟨outcome, entries, ran, ?_⟩
    cases decided with
    | refused cause useless =>
      refine .failed (fun other same => ?_) (.refused cause rfl)
      cases same
      exact useless
    | answered usable => exact .gave fun fails => usable (fails text rfl)
  · rw [ended]
    exact ⟨_, w.log, rfl, .failed (fun text same => absurd same (silent text)) told⟩

theorem performs_diff (directory : Text) (named : List Text) :
    Performs directory (.diff named) (command ("diff" :: named) directory >>= readDiff) := by
  refine performs_command (.diff named) fun output w => ?_
  unfold readDiff Step.Unusable Step.changes
  cases Diff.changedFiles output with
  | ok files =>
    refine ⟨_, w.log, rfl, .answered fun broken => ?_⟩
    obtain ⟨cause, unread⟩ := broken
    cases unread
  | error cause => exact ⟨_, w.log, rfl, .refused _ ⟨cause, rfl⟩⟩

theorem readUntracked_looks (directory path : Text) :
    Looks (fun tree => Decided (Unreadable tree directory path)
      ((tree.textAt? (placeOf directory path)).map (added path)))
      (readUntracked path directory) := by
  intro w
  have place : (Path.ofText directory).join (Path.ofText path) = placeOf directory path := rfl
  unfold readUntracked Unreadable FileTree.textAt?
  dsimp only
  rw [place]
  by_cases null : hasNull (placeOf directory path).text = true
  · rw [if_pos null]
    exact ⟨_, w.log, rfl, .refused _ (.inl null)⟩
  · rw [if_neg null, Run.on_bind, Run.on_get]
    dsimp only
    cases read : w.files.read (placeOf directory path) with
    | error cause => exact ⟨_, w.log, rfl, .refused _ (.inr ⟨cause, rfl⟩)⟩
    | ok bytes =>
      have readable : ¬(hasNull (placeOf directory path).text = true ∨
          ∃ cause, (.ok bytes : Except FileError Text.Bytes) = .error cause) := by
        intro fails
        rcases fails with found | ⟨cause, unread⟩
        · exact null found
        · cases unread
      dsimp only [Except.toOption, Option.bind_some]
      cases Text.decodeUtf8 bytes with
      | error flaw => exact ⟨_, w.log, rfl, .answered readable⟩
      | ok text => exact ⟨_, w.log, rfl, .answered readable⟩

theorem performs_untracked (directory : Text) :
    Performs directory .untracked (untrackedChanges directory) := by
  refine performs_command .untracked fun output w => ?_
  obtain ⟨outcome, entries, ran, each⟩ :=
    Looks.mapM (fun path (_ : path ∈ listed output) => readUntracked_looks directory path) w
  dsimp only
  change ∃ _ _, Run.on (do
    let found ← (listed output).mapM fun path => readUntracked path directory
    return found.filterMap id) w = _ ∧ _
  rw [Run.on_bind, ran]
  cases each.decided with
  | refused cause fails => exact ⟨_, entries, rfl, .refused cause fails⟩
  | answered fine =>
    refine ⟨_, entries, rfl, ?_⟩
    rw [List.filterMap_map]
    exact .answered fine

-- An action that carries out a plan; the name of the current branch may be a part of it.
def Carries (directory : Text) (plan : Text → List Step) (action : Run (List ChangedFile)) : Prop :=
  ∀ w, ∃ outcome after, action.on w = (outcome, after) ∧
    CarriedOut directory w (plan (Text.trim (w.reply 0).said)) outcome after

theorem Performs.alone {step : Step} {action : Run (List ChangedFile)}
    (performs : Performs directory step action) : Carries directory (fun _ => [step]) action := by
  intro w
  obtain ⟨outcome, entries, ran, performed⟩ := performs w
  refine ⟨outcome, _, ran, ?_⟩
  cases performed with
  | failed fails told => exact .failed [] entries fails told
  | gave fine =>
    have carried := CarriedOut.onward entries fine (.done _)
    dsimp only [Except.map] at carried
    rwa [List.append_nil] at carried

theorem Performs.before {step : Step} {action others : Run (List ChangedFile)} {rest : List Step}
    (performs : Performs directory step action)
    (carries : Carries directory (fun _ => rest) others) :
    Carries directory (fun _ => step :: rest) (do
      let first ← action
      return first ++ (← others)) := by
  intro w
  obtain ⟨outcome, entries, ran, performed⟩ := performs w
  rw [Run.on_bind, ran]
  cases performed with
  | failed fails told => exact ⟨_, _, rfl, .failed rest entries fails told⟩
  | gave fine =>
    obtain ⟨later, after, ranLater, carried⟩ :=
      carries { w.asking step.arguments directory with log := entries }
    refine ⟨_, after, ?_, .onward entries fine carried⟩
    dsimp only
    rw [Run.on_bind, ranLater]
    cases later <;> rfl

theorem stagedChanges_carries (directory : Text) :
    Carries directory (fun _ => [.diff ["--cached"]])
      (command ["diff", "--cached"] directory >>= readDiff) :=
  (performs_diff directory ["--cached"]).alone

theorem uncommittedChanges_carries (directory : Text) :
    Carries directory (fun _ => [.diff [], .untracked]) (do
      let tracked ← command ["diff"] directory >>= readDiff
      return tracked ++ (← untrackedChanges directory)) :=
  (performs_diff directory []).before (performs_untracked directory).alone

-- The current branch is asked for first, and what it is called goes into the next command.
theorem currentBranch_carries (directory base : Text) :
    Carries directory (fun current => [.branch, .diff [base, current]]) (do
      let current ← currentBranch directory
      command ["diff", base, current] directory >>= readDiff) := by
  intro w
  have named : (currentBranch directory).on w =
      ((outcomeOf Step.branch.arguments (w.reply 0)).map Text.trim,
        w.asking Step.branch.arguments directory) := by
    unfold currentBranch
    rw [Run.on_map, command_on]
    rfl
  rw [Run.on_bind, named]
  rcases outcomeOf_ends Step.branch.arguments (w.reply 0) with
    ⟨text, replied⟩ | ⟨silent, fault, ended, told⟩
  · have fine : ¬Step.branch.Fails (w.left Step.branch.arguments directory) directory (w.reply 0) :=
      fun fails => fails text replied
    obtain ⟨outcome, after, ran, carried⟩ := (performs_diff directory [base, Text.trim text]).alone
      (w.asking Step.branch.arguments directory)
    have onward := CarriedOut.onward w.log fine carried
    rw [replied] at onward ⊢
    refine ⟨outcome, after, ran, ?_⟩
    cases outcome <;> exact onward
  · rw [ended]
    exact ⟨_, _, rfl, .failed _ w.log (fun text same => absurd same (silent text)) told⟩

end Git
end PatchReview
