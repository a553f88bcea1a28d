import PatchReview.Proofs.Host.Fetching

-- Posting a review.  After the pull request is opened, the commits are listed and the review is
-- posted to the last one; each way in which this can go is one case of `Posting`.
namespace PatchReview
namespace Host

variable {repository token event : Text} {number : Int} {body : Option Text}

-- The requests that follow the opening, and what they come to.  The host turns between the two.
inductive Posting (host : CodeHost) (body : Option Text) (event : Text) :
    Except Fault Int → List Call → Prop
  | noCommits {failure : HostFailure} (failed : host.failures .commits = some failure) :
    Posting host body event (.error failure.fault) [.getCommits]
  | noCommit (answered : host.failures .commits = none) (missing : host.commits.getLast? = none) :
    Posting host body event (.error .noCommit) [.getCommits]
  | declined {commit : Text} {failure : HostFailure} (answered : host.failures .commits = none)
      (last : host.commits.getLast? = some commit)
      (failed : host.next.failures .createReview = some failure) :
    Posting host body event (.error failure.fault) [.getCommits, .createReview commit body event]
  | posted {commit : Text} (answered : host.failures .commits = none)
      (last : host.commits.getLast? = some commit)
      (accepted : host.next.failures .createReview = none) :
    Posting host body event (.ok host.next.reviewId) [.getCommits, .createReview commit body event]

inductive Submitting (repository : Text) (number : Int) (body : Option Text) (event token : Text)
    (w : World) : Except Fault Int → World → Prop
  | unopened {fault : Fault} {after : World}
      (opening : Opening repository number token w (.error fault) after) :
    Submitting repository number body event token w (.error fault) after
  | opened {pull : PullRequest} {middle : World} {outcome : Except Fault Int} {requests : List Call}
      (opening : Opening repository number token w (.ok pull) middle)
      (posting : Posting middle.host body event outcome requests) (entries : List LogEntry) :
    Submitting repository number body event token w outcome
      { middle.calling requests with log := entries }

theorem submit_on (repository : Text) (number : Int) (body : Option Text) (event token : Text)
    (w : World) :
    ∃ outcome after, (submit repository number body event token).on w = (outcome, after) ∧
      Submitting repository number body event token w outcome after := by
  obtain ⟨outcome, middle, ran, opening⟩ := openPull_on repository number token w
  refine ⟨((submit repository number body event token).on w).1,
    ((submit repository number body event token).on w).2, rfl, ?_⟩
  unfold submit
  rw [Run.on_bind, ran]
  cases outcome with
  | error fault => exact .unopened opening
  | ok pull =>
    dsimp only
    rw [Run.on_bind]
    cases answered : middle.host.failures .commits with
    | some failure =>
      rw [request_failed rfl answered]
      exact .opened opening (.noCommits answered) middle.log
    | none =>
      rw [request_answered rfl answered]
      dsimp only
      have turned : (middle.calling [.getCommits]).host = middle.host.next := rfl
      cases last : middle.host.commits.getLast? with
      | none => exact .opened opening (.noCommit answered last) middle.log
      | some commit =>
        dsimp only
        rw [Run.on_bind]
        cases accepted : middle.host.next.failures .createReview with
        | some failure =>
          rw [request_failed rfl (by rwa [turned]), World.calling_calling]
          exact .opened opening (.declined answered last accepted) middle.log
        | none =>
          rw [request_answered rfl (by rwa [turned]), World.calling_calling, turned]
          exact .opened opening (.posted answered last accepted) _

theorem forM_log (details : List Text) (w : World) :
    ∃ entries, Run.on (details.forM fun detail => Run.log .error .codeHost ("  - " ++ detail)) w =
      (.ok (), { w with log := entries }) := by
  induction details generalizing w with
  | nil => exact ⟨w.log, rfl⟩
  | cons detail rest ih =>
    obtain ⟨entries, ran⟩ := ih ((Run.log .error .codeHost ("  - " ++ detail)).on w).2
    refine ⟨entries, ?_⟩
    rw [List.forM_eq_forM, List.forM_cons, Run.on_bind, Run.on_log]
    exact ran

theorem logDetails_on (data : Json) (w : World) :
    ∃ entries, (logDetails data).on w =
      ((failureDetails data).map fun _ => (), { w with log := entries }) := by
  unfold logDetails
  cases failureDetails data with
  | error fault => exact ⟨w.log, rfl⟩
  | ok details => exact forM_log details w

-- How a failure to post ends: it is told, unless its details cannot be gone through.
def failureFault (status : Int) (data : Json) : Fault :=
  match failureDetails data with
  | .ok _ => .refused (.reviewPost (failureText status data))
  | .error fault => fault

theorem postFailure_on (status : Int) (data : Json) (w : World) :
    ∃ entries, (postFailure status data : Run Int).on w =
      (.error (failureFault status data), { w with log := entries }) := by
  unfold postFailure failureFault
  rw [Run.on_bind, Run.on_log]
  dsimp only
  obtain ⟨entries, ran⟩ := logDetails_on data
    ((Run.log .error .codeHost ("Failed to post review: " ++ failureText status data)).on w).2
  rw [Run.on_log] at ran
  rw [Run.on_bind, ran]
  cases failureDetails data with
  | error fault => exact ⟨entries, rfl⟩
  | ok _ => exact ⟨entries, rfl⟩

-- What becomes of a fault on its way out: a failure of the service is explained.
def explainedFault : Fault → Fault
  | .service status data => failureFault status data
  | fault => fault

-- An event that is known is submitted; explaining a failure leaves it a failure.
theorem post_on {submission : Submission} (known : knownEvent? submission.event = some event)
    (repository : Text) (number : Int) (token : Text) (w : World) :
    ∃ outcome after entries,
      Submitting repository number submission.body event token w outcome after ∧
      (post repository number submission token).on w =
        (outcome.mapError explainedFault, { after with log := entries }) := by
  obtain ⟨outcome, after, ran, submitting⟩ :=
    submit_on repository number submission.body event token w
  unfold post
  rw [known]
  dsimp only
  rw [explaining_on, ran]
  refine ⟨outcome, after, ?_⟩
  rcases outcome with fault | id
  · cases fault with
    | service status data =>
      obtain ⟨entries, told⟩ := postFailure_on status data after
      exact ⟨entries, submitting, told⟩
    | _ => exact ⟨after.log, submitting, rfl⟩
  · exact ⟨after.log, submitting, rfl⟩

end Host
end PatchReview
