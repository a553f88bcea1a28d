import PatchReview.Proofs.FileScan.Untracked
import PatchReview.Proofs.Git.Leaving
import PatchReview.Proofs.Run.Looking

-- The git commands behind a set of changes, as a plan.  A step of a plan is a command and what is
-- made of its output.  The first step that fails ends the plan, with a refusal unless the command
-- could not be started, and no later command is issued; without a failure, each step adds its
-- changes in order.
namespace PatchReview

-- The text that a path leads to, with its line ends folded; none where the content is no text.
def FileTree.textAt? (tree : FileTree) (path : Path) : Option Text :=
  (tree.read path).toOption.bind fun bytes =>
    (Text.decodeUtf8 bytes).toOption.map Text.normalizeNewlines

namespace GitReply

-- What the command prints.
def said : GitReply → Text
  | .output text => text
  | .failed .. | .undecodable _ | .missing | .notStarted _ => []

-- A command that cannot be started for another reason than a null is not refused.
def stray? : GitReply → Option Fault
  | .notStarted .null => none
  | .notStarted cause => some cause.fault
  | .output _ | .failed .. | .undecodable _ | .missing => none

-- The fault that a step with this reply fails with.
inductive FailsBy (reply : GitReply) : Fault → Prop
  | strayed {fault : Fault} (stray : reply.stray? = some fault) : FailsBy reply fault
  | refused (cause : Refusal) (started : reply.stray? = none) : FailsBy reply (.refused cause)

theorem stray?_escapes {reply : GitReply} {fault : Fault} (stray : reply.stray? = some fault) :
    fault.isValueFault = false := by
  cases reply with
  | notStarted cause =>
    cases cause with
    | null => cases stray
    | file | outside =>
      cases stray
      rfl
  | output | failed | undecodable | missing => cases stray

end GitReply

namespace Git

inductive Step
  | branch
  | diff (named : List Text)
  | untracked
  deriving DecidableEq, Repr

-- The paths that a listing names.
def listed (output : Text) : List Text := (Text.boundedLines output).filter (!·.isEmpty)

def placeOf (directory path : Text) : Path := (Path.ofText directory).join (Path.ofText path)

-- Nothing can be read at a path, text or not.
def Unreadable (tree : FileTree) (directory path : Text) : Prop :=
  hasNull (placeOf directory path).text = true ∨
    ∃ cause, tree.read (placeOf directory path) = .error cause

namespace Step

def arguments : Step → List Text
  | branch => ["rev-parse", "--abbrev-ref", "HEAD"]
  | diff named => "diff" :: named
  | untracked => ["ls-files", "--others", "--exclude-standard"]

def call (directory : Text) (step : Step) : Call := .git step.arguments directory

-- What a command printed cannot be made use of.
def Unusable (tree : FileTree) (directory output : Text) : Step → Prop
  | branch => False
  | diff _ => ∃ cause, Diff.changedFiles output = .error cause
  | untracked => ∃ path ∈ listed output, Unreadable tree directory path

-- The command fails, or is not started, or the output is of no use.
def Fails (tree : FileTree) (directory : Text) (reply : GitReply) (step : Step) : Prop :=
  ∀ output, reply = .output output → step.Unusable tree directory output

-- The changes that are read from what a command printed.
def changes (tree : FileTree) (directory output : Text) : Step → List ChangedFile
  | branch => []
  | diff _ => (Diff.changedFiles output).toOption.getD []
  | untracked => (listed output).filterMap fun path =>
      (tree.textAt? (placeOf directory path)).map (added path)

end Step

-- The files that are there for a step of a plan, by its number: its own command has been run.
def filesAt (w : World) (directory : Text) (plan : List Step) (k : Nat) : FileTree :=
  (w.replay ((plan.take (k + 1)).map (Step.call directory))).files

def FailsAt (w : World) (directory : Text) (plan : List Step) (k : Nat) : Prop :=
  ∃ step, plan[k]? = some step ∧ step.Fails (filesAt w directory plan k) directory (w.reply k)

def FirstFailure (w : World) (directory : Text) (plan : List Step) (k : Nat) : Prop :=
  FailsAt w directory plan k ∧ ∀ j < k, ¬FailsAt w directory plan j

-- The changes of a whole plan.
def gathered (w : World) (directory : Text) (plan : List Step) : List ChangedFile :=
  (plan.mapIdx fun k step =>
    step.changes (filesAt w directory plan k) directory (w.reply k).said).flatten

-- How a step goes, once its command has been run: it fails as the reply has it, or gives changes.
inductive Performed (tree : FileTree) (directory : Text) (reply : GitReply) (step : Step) :
    Except Fault (List ChangedFile) → Prop
  | failed {fault : Fault} (fails : step.Fails tree directory reply) (told : reply.FailsBy fault) :
    Performed tree directory reply step (.error fault)
  | gave (fine : ¬step.Fails tree directory reply) :
    Performed tree directory reply step (.ok (step.changes tree directory reply.said))

-- How a plan is carried out, step by step.
inductive CarriedOut (directory : Text) :
    World → List Step → Except Fault (List ChangedFile) → World → Prop
  | done (w : World) : CarriedOut directory w [] (.ok []) w
  | failed {w : World} {step : Step} {fault : Fault} (rest : List Step) (entries : List LogEntry)
      (fails : step.Fails (w.left step.arguments directory) directory (w.reply 0))
      (told : (w.reply 0).FailsBy fault) :
    CarriedOut directory w (step :: rest) (.error fault)
      { w.asking step.arguments directory with log := entries }
  | onward {w after : World} {step : Step} {rest : List Step}
      {outcome : Except Fault (List ChangedFile)} (entries : List LogEntry)
      (fine : ¬step.Fails (w.left step.arguments directory) directory (w.reply 0))
      (later : CarriedOut directory { w.asking step.arguments directory with log := entries } rest
        outcome after) :
    CarriedOut directory w (step :: rest)
      (outcome.map (step.changes (w.left step.arguments directory) directory (w.reply 0).said ++ ·))
      after

section
variable {w after : World} {directory : Text} {plan rest : List Step} {step : Step} {k : Nat}
  {outcome : Except Fault (List ChangedFile)} {entries : List LogEntry}

theorem filesAt_cons (w : World) (directory : Text) (step : Step) (rest : List Step)
    (entries : List LogEntry) (k : Nat) :
    filesAt w directory (step :: rest) (k + 1) =
      filesAt { w.asking step.arguments directory with log := entries } directory rest k := by
  have same : World.SameGit { w.asking step.arguments directory with log := entries }
      (w.asking step.arguments directory) := ⟨rfl, rfl, rfl⟩
  exact (same.replay _).files

theorem failsAt_cons :
    FailsAt w directory (step :: rest) (k + 1) ↔
      FailsAt { w.asking step.arguments directory with log := entries } directory rest k := by
  unfold FailsAt
  rw [List.getElem?_cons_succ, filesAt_cons w directory step rest entries,
    ← w.reply_asking step.arguments directory]
  rfl

theorem gathered_cons (w : World) (directory : Text) (step : Step) (rest : List Step)
    (entries : List LogEntry) :
    gathered w directory (step :: rest) =
      step.changes (w.left step.arguments directory) directory (w.reply 0).said ++
        gathered { w.asking step.arguments directory with log := entries } directory rest := by
  unfold gathered
  rw [List.mapIdx_cons, List.flatten_cons]
  simp only [filesAt_cons w directory step rest entries, ← w.reply_asking step.arguments directory]
  rfl

-- Up to the first failure all commands are issued, and none after it.
theorem CarriedOut.stopped (carried : CarriedOut directory w plan outcome after)
    (first : FirstFailure w directory plan k) :
    (∃ fault, outcome = .error fault ∧ (w.reply k).FailsBy fault) ∧
      after.calls = w.calls ++ (plan.take (k + 1)).map (Step.call directory) := by
  induction carried generalizing k with
  | done w =>
    obtain ⟨⟨step, place, -⟩, -⟩ := first
    cases place
  | @failed w step fault rest entries fails told =>
    have start : FailsAt w directory (step :: rest) 0 := ⟨step, rfl, fails⟩
    cases k with
    | succ k => exact absurd start (first.2 0 (by omega))
    | zero => exact ⟨⟨fault, rfl, told⟩, rfl⟩
  | @onward w after step rest outcome entries fine later ih =>
    cases k with
    | zero =>
      obtain ⟨⟨_, place, fails⟩, -⟩ := first
      cases place
      exact absurd fails fine
    | succ k =>
      obtain ⟨here, before⟩ := first
      obtain ⟨⟨fault, ended, told⟩, calls⟩ := ih ⟨failsAt_cons.mp here, fun j early fails =>
        before (j + 1) (by omega) (failsAt_cons.mpr fails)⟩
      have told : (w.reply (k + 1)).FailsBy fault :=
        w.reply_asking step.arguments directory k ▸ told
      refine ⟨⟨fault, by rw [ended]; rfl, told⟩, ?_⟩
      rw [calls, List.take_succ_cons, List.map_cons]
      exact List.append_assoc _ _ _

theorem CarriedOut.finished (carried : CarriedOut directory w plan outcome after)
    (fine : ∀ k, ¬FailsAt w directory plan k) :
    outcome = .ok (gathered w directory plan) ∧
      after.calls = w.calls ++ plan.map (Step.call directory) := by
  induction carried with
  | done w => exact ⟨rfl, (List.append_nil _).symm⟩
  | @failed w step fault rest entries fails => exact absurd ⟨step, rfl, fails⟩ (fine 0)
  | @onward w after step rest outcome entries allowed later ih =>
    obtain ⟨ended, calls⟩ := ih fun k fails => fine (k + 1) (failsAt_cons.mpr fails)
    rw [ended, gathered_cons w directory step rest entries, calls]
    exact ⟨rfl, List.append_assoc _ _ _⟩

end

end Git
end PatchReview
