import PatchReview.Proofs.Git.Sources
import PatchReview.Proofs.Host.Posting
import PatchReview.Proofs.Reviewing.EachFile
import PatchReview.PullReview

-- Whole operations.  A relation that the smallest actions follow, where they reach to the outside,
-- is followed by everything that is put together from them: fetching and posting, the review of
-- files, and the review of a pull request from end to end; the review of a working tree follows it
-- if git does.
namespace PatchReview

open Run (Moves)

variable {α : Type} {R : World → World → Prop} {token key : Text}

-- A relation that holds across each way to reach a service with a token and a key.
structure Follows (R : World → World → Prop) (token key : Text) : Prop where
  blind : Run.LogBlind R
  openPull (repository : Text) (number : Int) : Moves R (Host.openPull repository number token)
  getFiles (w : World) : R w (w.calling [.getFiles])
  getCommits (w : World) : R w (w.calling [.getCommits])
  createReview (commit : Text) (body : Option Text) (event : Text) (w : World) :
    R w (w.calling [.createReview commit body event])
  ask (system user model : Text) : Moves R (LanguageModel.ask system user key model)

theorem Run.because_moves [IsPreorder World R] {outer : Refusal → Refusal} {action : Run α}
    (first : Moves R action) : Moves R (Run.because outer action) := by
  refine first.tryCatch fun fault => ?_
  split
  · exact .refuse _
  · exact .throw _

namespace Follows

variable [IsPreorder World R]

theorem log (follows : Follows R token key) (level : Level) (topic : Topic) (message : Text) :
    Moves R (Run.log level topic message) := .log follows.blind level topic message

theorem info (follows : Follows R token key) (topic : Topic) (message : Text) :
    Moves R (Run.info topic message) := follows.log .info topic message

theorem fetchPull (follows : Follows R token key) (repository : Text) (number : Int) :
    Moves R (Host.fetchPull repository number token) :=
  Host.fetchPull_moves (follows.openPull repository number)

theorem fetchFiles (follows : Follows R token key) (repository : Text) (number : Int) :
    Moves R (Host.fetchFiles repository number token) :=
  Host.fetchFiles_moves (follows.openPull repository number) follows.getFiles

theorem submit (follows : Follows R token key) (repository : Text) (number : Int)
    (body : Option Text) (event : Text) :
    Moves R (Host.submit repository number body event token) := by
  refine (follows.openPull repository number).bind fun _ => ?_
  refine (Host.request_moves rfl follows.getCommits).bind fun host => ?_
  split
  · exact .throw _
  · rename_i commit _
    refine (Host.request_moves rfl (follows.createReview commit body event)).bind fun host => ?_
    exact (follows.info _ _).bind fun _ => .pure _

theorem postFailure (follows : Follows R token key) (status : Int) (data : Json) :
    Moves R (Host.postFailure status data : Run Int) := by
  intro w
  obtain ⟨entries, told⟩ := Host.postFailure_on status data w
  rw [told]
  exact follows.blind w w w.log entries (refl_of R w)

theorem post (follows : Follows R token key) (repository : Text) (number : Int)
    (submission : Host.Submission) :
    Moves R (Host.post repository number submission token) := by
  unfold Host.post
  split
  · exact Host.explaining_moves (follows.submit _ _ _ _) follows.postFailure
  · exact .refuse _

theorem reviewAll {analyzer : Analyzer} (follows : Follows R token analyzer.key)
    (files : List ChangedFile) : Moves R (Reviewing.reviewAll analyzer files) := by
  intro w
  obtain ⟨_, after, ran, -, moved⟩ := Reviewing.reviewAll_gives follows.blind
    (fun file analysis => analysis.filename = file.filename) (Analyzer.attempt_gives follows.ask)
    files w
  rw [ran]
  exact moved

theorem sumUp (follows : Follows R token key) (files : List ReviewedFile) (scope : Scope)
    (pull : Option PullHeading) : Moves R (Reviewing.sumUp files scope pull) :=
  (follows.info _ _).bind fun _ => .pure _

theorem readDiff (diff : Text) : Moves R (Git.readDiff diff) := by
  unfold Git.readDiff
  split
  · exact .pure _
  · exact .refuse _

theorem readUntracked (path directory : Text) : Moves R (Git.readUntracked path directory) := by
  unfold Git.readUntracked
  dsimp only
  split
  · exact .refuse _
  · refine Moves.get.bind fun w => ?_
    split
    · exact .refuse _
    · split <;> exact .pure _

section
variable (follows : Follows R token key)
  (git : ∀ arguments directory, Moves R (Git.command arguments directory))
include follows git

theorem stagedChanges (directory : Text) : Moves R (Git.stagedChanges directory) := by
  refine (Run.because_moves ((git _ directory).bind readDiff)).bind fun files => ?_
  exact (follows.info _ _).bind fun _ => .pure _

omit follows in
theorem untrackedChanges (directory : Text) : Moves R (Git.untrackedChanges directory) := by
  refine (git _ directory).bind fun output => ?_
  exact (Moves.mapM (readUntracked · directory) _).bind fun _ => .pure _

theorem uncommittedChanges (directory : Text) : Moves R (Git.uncommittedChanges directory) := by
  refine (Run.because_moves ?_).bind fun files => (follows.info _ _).bind fun _ => .pure _
  refine (git _ directory).bind fun output => (readDiff output).bind fun tracked => ?_
  exact (untrackedChanges git directory).bind fun _ => .pure _

theorem branchDiff (base : Text) (compare : Option Text) (directory : Text) :
    Moves R (Git.branchDiff base compare directory) := by
  have rest (branch : Text) : Moves R (do
      let files ← Git.readDiff (← Git.command ["diff", base, branch] directory)
      return (files, branch)) :=
    (git _ directory).bind fun output => (readDiff output).bind fun _ => .pure _
  have current : Moves R (Git.currentBranch directory) := (git _ directory).map _
  refine (Run.because_moves ?_).bind fun found => (follows.info _ _).bind fun _ => .pure _
  split
  · exact rest _
  · exact current.bind rest

theorem changes (source : Reviewing.LocalSource) : Moves R source.changes := by
  unfold Reviewing.LocalSource.changes
  split
  · exact follows.stagedChanges git _
  · split
    · exact follows.branchDiff git _ _ _
    · exact follows.uncommittedChanges git _

end

theorem reviewWorkingTree {analyzer : Analyzer} (follows : Follows R token analyzer.key)
    (git : ∀ arguments directory, Moves R (Git.command arguments directory))
    (source : Reviewing.LocalSource) : Moves R (Reviewing.reviewWorkingTree analyzer source) := by
  refine (follows.changes git source).bind fun files => ?_
  have rest : Moves R (Reviewing.reviewAll analyzer files >>= fun reviewed =>
      Reviewing.sumUp reviewed .workingTree none) :=
    (follows.reviewAll files).bind fun reviewed => follows.sumUp reviewed _ _
  dsimp only
  split
  · exact (follows.info _ _).bind fun _ => rest
  · exact rest

end Follows

namespace PullReview

variable [IsPreorder World R] {request : Request}

-- The two fetches that a review begins with.
def fetching (request : Request) : Run (PullRequest × List ChangedFile) := do
  let pull ← Host.fetchPull request.repository request.number request.token
  let files ← Host.fetchFiles request.repository request.number request.token
  return (pull, files)

theorem fetching_moves
    (opens : Moves R (Host.openPull request.repository request.number request.token))
    (getFiles : ∀ w : World, R w (w.calling [.getFiles])) : Moves R (fetching request) :=
  (Host.fetchPull_moves opens).bind fun _ => (Host.fetchFiles_moves opens getFiles).bind fun _ =>
    .pure _

theorem fetch_moves (follows : Follows R request.token key) : Moves R (fetch request) := by
  have both : Moves R (fetching request) :=
    fetching_moves (follows.openPull _ _) follows.getFiles
  refine (follows.info _ _).bind fun _ => both.refusable.bind fun fetched => ?_
  split
  · exact (follows.log _ _ _).bind fun _ => .pure _
  · exact (follows.info _ _).bind fun _ => .pure _

theorem assess_moves (follows : Follows R token request.analyzer.key) (state : State) :
    Moves R (assess request state) := by
  refine (follows.info _ _).bind fun _ => (follows.reviewAll _).bind fun reviewed => ?_
  exact (follows.sumUp reviewed _ _).bind fun _ => .pure _

theorem post_moves (follows : Follows R request.token key) (state : State) :
    Moves R (post request state) := by
  refine (follows.info _ _).bind fun _ => (follows.post _ _ _).refusable.bind fun posted => ?_
  split
  · exact (follows.log _ _ _).bind fun _ => .pure _
  · exact (follows.info _ _).bind fun _ => .pure _

theorem run_moves (follows : Follows R request.token request.analyzer.key) :
    Moves R (run request) := by
  refine (follows.info _ _).bind fun _ => (fetch_moves follows).bind fun state => ?_
  split
  · exact .pure _
  · refine (assess_moves follows state).bind fun state => ?_
    refine ((follows.info _ _).bind fun _ => .pure _).bind fun stage => ?_
    split
    · exact post_moves follows state
    · exact .pure _

end PullReview
end PatchReview
