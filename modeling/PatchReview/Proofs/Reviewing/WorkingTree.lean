import PatchReview.Proofs.Git.Sources
import PatchReview.Proofs.Reviewing.EachFile

-- The review of a working tree.  What it issues is fixed by what it is asked for, up to the first
-- failure.  A failure is told with its source in front, unless git could not be started for a
-- reason that goes through as it is, and nothing is reviewed; otherwise the review has an entry for
-- each change, in order.
namespace PatchReview
namespace Reviewing

open Git (Carries CarriedOut FailsAt FirstFailure Step gathered)

-- Where the changes come from.
inductive Mode
  | staged
  | branches (base : Text) (compare : Option Text)
  | uncommitted
  deriving DecidableEq, Repr

namespace Mode

-- Only without a branch to compare does the name of the current one matter.
def plan : Mode → Text → List Step
  | staged, _ => [.diff ["--cached"]]
  | branches base (some compare), _ => [.diff [base, compare]]
  | branches base none, current => [.branch, .diff [base, current]]
  | uncommitted, _ => [.diff [], .untracked]

def label : Mode → Text
  | staged => "Failed to get staged changes: "
  | branches .. => "Failed to get branch diff: "
  | uncommitted => "Failed to get uncommitted changes: "

def told : Mode → Refusal → Refusal
  | staged => .stagedChanges
  | branches .. => .branchDiff
  | uncommitted => .uncommittedChanges

theorem message_told (mode : Mode) (cause : Refusal) :
    (mode.told cause).message = mode.label ++ cause.message := by
  cases mode <;> rfl

end Mode

-- What is staged goes before a base, and an empty base is none.
def LocalSource.mode (source : LocalSource) : Mode :=
  if source.staged then .staged
  else
    match source.base.filter (!·.isEmpty) with
    | some base => .branches base (source.compare.filter (!·.isEmpty))
    | none => .uncommitted

def LocalSource.plan (source : LocalSource) (w : World) : List Step :=
  source.mode.plan (Text.trim (w.reply 0).said)

def retold (outer : Refusal → Refusal) : Fault → Fault
  | .refused cause => .refused (outer cause)
  | fault => fault

theorem retold_escaping (outer : Refusal → Refusal) {fault : Fault}
    (escapes : fault.isValueFault = false) : retold outer fault = fault := by
  cases fault with
  | refused => cases escapes
  | _ => rfl

theorem because_on {α : Type} (outer : Refusal → Refusal) (action : Run α) (w : World) :
    (Run.because outer action).on w =
      ((action.on w).1.mapError (retold outer), (action.on w).2) := by
  unfold Run.because
  rw [Run.on_tryCatch]
  rcases action.on w with ⟨fault | a, after⟩
  · cases fault <;> rfl
  · rfl

-- A source that carries out its plan and, if that is refused, says which source it is.
def Tells (mode : Mode) (directory : Text) (changes : Run (List ChangedFile)) : Prop :=
  ∀ w, ∃ outcome after entries,
    CarriedOut directory w (mode.plan (Text.trim (w.reply 0).said)) outcome after ∧
    changes.on w = (outcome.mapError (retold mode.told), { after with log := entries })

-- What is found is noted, and its changes are given.
theorem because_tells {α : Type} {mode : Mode} {directory : Text} {action : Run α}
    {files : α → List ChangedFile} {next : α → Run (List ChangedFile)}
    (carries : Carries directory mode.plan (files <$> action))
    (noted : ∀ a v, ∃ entries, (next a).on v = (.ok (files a), { v with log := entries })) :
    Tells mode directory (Run.because mode.told action >>= next) := by
  intro w
  obtain ⟨outcome, after, ran, carried⟩ := carries w
  rw [Run.on_map] at ran
  rw [Run.on_bind, because_on]
  rcases ended : action.on w with ⟨fault | a, later⟩
  · rw [ended] at ran
    cases ran
    exact ⟨_, later, later.log, carried, rfl⟩
  · rw [ended] at ran
    cases ran
    obtain ⟨entries, found⟩ := noted a later
    exact ⟨_, later, entries, carried, found⟩

theorem stagedChanges_tells (directory : Text) :
    Tells .staged directory (Git.stagedChanges directory) := by
  have carries := Git.stagedChanges_carries directory
  rw [← id_map (Git.command _ _ >>= _)] at carries
  exact because_tells carries fun files v => ⟨_, rfl⟩

theorem uncommittedChanges_tells (directory : Text) :
    Tells .uncommitted directory (Git.uncommittedChanges directory) := by
  have carries := Git.uncommittedChanges_carries directory
  rw [bind_assoc, ← id_map (Git.command _ _ >>= _)] at carries
  exact because_tells carries fun files v => ⟨_, rfl⟩

theorem branchDiff_tells (base : Text) (compare : Option Text) (directory : Text) :
    Tells (.branches base (compare.filter (!·.isEmpty))) directory
      (Git.branchDiff base compare directory) := by
  unfold Git.branchDiff
  refine because_tells ?_ fun found v => ⟨_, rfl⟩
  cases compare.filter (!·.isEmpty) with
  | some branch =>
    simp only [map_bind, map_pure, bind_pure, pure_bind]
    exact (Git.performs_diff directory [base, branch]).alone
  | none =>
    simp only [map_bind, map_pure, bind_pure]
    exact Git.currentBranch_carries directory base

theorem changes_tells (source : LocalSource) :
    Tells source.mode source.directory source.changes := by
  unfold LocalSource.changes LocalSource.mode
  cases source.staged with
  | true => exact stagedChanges_tells source.directory
  | false =>
    cases source.base.filter (!·.isEmpty) with
    | some base => exact branchDiff_tells base source.compare source.directory
    | none => exact uncommittedChanges_tells source.directory

-- Changes that were read are reviewed, and only the language model is asked anything more.
theorem reviewed_gives (analyzer : Analyzer) (files : List ChangedFile) :
    Run.Gives (fun w review after =>
        List.Forall₂ (EntryOf fun file analysis => analysis.filename = file.filename) files
          review.files ∧ Adds Call.isConsulting w after)
      (do
        if files.isEmpty then Run.info .reviewing "No changes to review"
        sumUp (← reviewAll analyzer files) .workingTree none) := by
  intro w
  have consults (system user model : Text) : Run.Moves (Adds Call.isConsulting)
      (LanguageModel.ask system user analyzer.key model) :=
    LanguageModel.ask_moves fun _ => LanguageModel.asked_adds _ _ _ _
  have reviews (before : List LogEntry) : ∃ review after,
      (reviewAll analyzer files >>= fun reviewed => sumUp reviewed .workingTree none).on
        { w with log := before } = (.ok review, after) ∧
      List.Forall₂ (EntryOf fun file analysis => analysis.filename = file.filename) files
        review.files ∧ Adds Call.isConsulting w after := by
    obtain ⟨reviewed, middle, ran, matched, added⟩ := reviewAll_gives Adds.blind
      (fun file analysis => analysis.filename = file.filename)
      (Analyzer.attempt_gives consults) files { w with log := before }
    obtain ⟨review, entries, summed, content, -⟩ := sumUp_on reviewed .workingTree none middle
    rw [Run.on_bind, ran]
    exact ⟨review, _, summed, content ▸ matched, Adds.blind w middle before entries added⟩
  dsimp only
  split
  · exact reviews _
  · exact reviews w.log

theorem reviewWorkingTree_reads (analyzer : Analyzer) (source : LocalSource) (w : World) :
    ∃ outcome after, (reviewWorkingTree analyzer source).on w = (outcome, after) ∧
      (∀ k, FirstFailure w source.directory (source.plan w) k →
        after.calls =
          w.calls ++ ((source.plan w).take (k + 1)).map (Step.call source.directory) ∧
        ((w.reply k).stray? = none → ∃ fault detail, outcome = .error fault ∧
          fault.isValueFault = true ∧ fault.message = source.mode.label ++ detail) ∧
        ∀ fault, (w.reply k).stray? = some fault →
          outcome = .error fault ∧ fault.isValueFault = false) ∧
      ((∀ k, ¬FailsAt w source.directory (source.plan w) k) → ∃ review asked,
        outcome = .ok review ∧
        after.calls = w.calls ++ ((source.plan w).map (Step.call source.directory) ++ asked) ∧
        (∀ call ∈ asked, call.isConsulting = true) ∧
        List.Forall₂ (EntryOf fun file analysis => analysis.filename = file.filename)
          (gathered w source.directory (source.plan w)) review.files) := by
  obtain ⟨gathering, read, entries, carried, ran⟩ := changes_tells source w
  unfold reviewWorkingTree
  rw [Run.on_bind, ran]
  cases gathering with
  | error fault =>
    refine ⟨_, _, rfl, fun k first => ?_, fun fine => ?_⟩
    · obtain ⟨⟨_, ended, told⟩, calls⟩ := carried.stopped first
      cases ended
      refine ⟨calls, fun started => ?_, fun other stray => ?_⟩
      · cases told with
        | strayed stray => cases started.symm.trans stray
        | refused cause => exact ⟨_, cause.message, rfl, rfl, source.mode.message_told cause⟩
      · cases told with
        | strayed same =>
          cases stray.symm.trans same
          have escapes := GitReply.stray?_escapes stray
          rw [retold_escaping _ escapes]
          exact ⟨rfl, escapes⟩
        | refused _ started => cases started.symm.trans stray
    · cases (carried.finished fine).1
  | ok files =>
    dsimp only [Except.mapError]
    generalize noted : ({ read with log := entries } : World) = begun
    have calls : begun.calls = read.calls := noted ▸ rfl
    obtain ⟨review, after, reviewed, matched, asked, added, -, consulting⟩ :=
      reviewed_gives analyzer files begun
    refine ⟨_, _, reviewed, fun k first => ?_, fun fine => ?_⟩
    · obtain ⟨⟨_, ended, -⟩, -⟩ := carried.stopped first
      cases ended
    · obtain ⟨ended, issued⟩ := carried.finished fine
      cases ended
      refine ⟨review, asked, rfl, ?_, consulting, matched⟩
      rw [added, calls]
      exact (congrArg (· ++ asked) issued).trans (List.append_assoc _ _ _)

-- Git cannot be started in a file; and one file is there, whose name has a line separator in it.
def strayWorld (replies : List GitReply) : World where
  files := { files := [(["a\u2028b"], [])] }
  gitReplies := replies
  host := { pull number := { number := .int number }, files := [], commits := [], reviewId := 1
            failures _ := none }

theorem reviewWorkingTree_reads_stray :
    (∃ after, (reviewWorkingTree .static { directory := "a.py" }).on
        (strayWorld [.notStarted (.file ⟨.notDirectory, "a.py"⟩)]) =
      (.error (.file ⟨.notDirectory, "a.py"⟩), after)) ∧
    ∃ fault after, (reviewWorkingTree .static {}).on
        (strayWorld [.output [], .output "a\u2028b\n"]) = (.error fault, after) ∧
      fault.isValueFault = true := by
  constructor
  · obtain ⟨outcome, after, ran, stops, -⟩ :=
      reviewWorkingTree_reads .static { directory := "a.py" }
        (strayWorld [.notStarted (.file ⟨.notDirectory, "a.py"⟩)])
    have first : FirstFailure (strayWorld [.notStarted (.file ⟨.notDirectory, "a.py"⟩)]) "a.py"
        [.diff [], .untracked] 0 := ⟨⟨_, rfl, nofun⟩, nofun⟩
    obtain ⟨rfl, -⟩ := (stops 0 first).2.2 _ rfl
    exact ⟨after, ran⟩
  · obtain ⟨outcome, after, ran, stops, -⟩ :=
      reviewWorkingTree_reads .static {} (strayWorld [.output [], .output "a\u2028b\n"])
    have missing : (strayWorld []).files.read (.ofText "a") = .error ⟨.notFound, "a"⟩ := by
      decide +kernel
    have listed : ("a" : Text) ∈ Git.listed "a\u2028b\n" := by decide +kernel
    have first : FirstFailure (strayWorld [.output [], .output "a\u2028b\n"]) "."
        [.diff [], .untracked] 1 := by
      refine ⟨⟨.untracked, rfl, fun output same => ?_⟩, fun k early fails => ?_⟩
      · cases same
        exact ⟨"a", listed, .inr ⟨_, missing⟩⟩
      · obtain rfl : k = 0 := by omega
        obtain ⟨_, place, unusable⟩ := fails
        cases place
        obtain ⟨cause, unread⟩ := unusable [] rfl
        cases unread
    obtain ⟨fault, detail, rfl, value, -⟩ := (stops 1 first).2.1 rfl
    exact ⟨fault, after, ran, value⟩

end Reviewing
end PatchReview
