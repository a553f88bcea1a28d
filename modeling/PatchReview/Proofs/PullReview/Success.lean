import PatchReview.Proofs.PullReview.Course
import PatchReview.Proofs.Run.Surface

-- When a review of a pull request succeeds.  Both fetches have to arrive and, if the review is to
-- be posted, the code host has to take it; a run tells by its error, and by nothing else, that it
-- did not.  On the way nothing is printed, and nobody is approved who was not to be.
namespace PatchReview

open Run (Moves)

-- None of the four requests of a post fails, and there is a commit that the review can go to.
def CodeHost.TakesReview (host : CodeHost) : Prop :=
  host.postFailure? = none ∧ host.next.next.commits ≠ []

theorem Host.Submitting.taken {repository token event : Text} {number : Int} {body : Option Text}
    {w after : World} {outcome : Except Fault Int}
    (submitting : Submitting repository number body event token w outcome after)
    (admits : Admits repository token w) : outcome.isOk = true ↔ w.host.TakesReview := by
  cases submitting with
  | unopened opening =>
    rcases opening.failed admits with ⟨failure, -, first⟩ | ⟨-, -, arrived, -⟩
    · refine ⟨nofun, fun takes => ?_⟩
      cases first.symm.trans takes.1
    · cases arrived
  | opened opening posting =>
    rcases opening.failed admits with ⟨failure, same, -⟩ | ⟨found, answered, -, turned⟩
    · cases same
    rw [turned] at posting
    unfold CodeHost.TakesReview CodeHost.postFailure?
    rw [found, answered, Option.none_or, Option.none_or]
    cases posting with
    | noCommits first => simp [first, Except.isOk, Except.toBool]
    | noCommit listed missing =>
      simp [List.getLast?_eq_none_iff.mp missing, Except.isOk, Except.toBool]
    | declined listed last failed => simp [listed, failed, Except.isOk, Except.toBool]
    | posted listed last accepted =>
      have some_commit := List.ne_nil_of_mem (List.mem_of_getLast? last)
      simp [listed, accepted, some_commit, Except.isOk, Except.toBool]

-- Under this event a pull request is approved.
def Call.isApproval : Call → Bool
  | createReview _ _ event => event = "APPROVE"
  | _ => false

namespace PullReview

variable {request : Request} {state : State} {w : World}

def Succeeds (request : Request) (w : World) : Prop :=
  ∃ found fetched, (fetching request).on w = (.ok found, fetched) ∧
    (request.post = true → fetched.host.TakesReview)

-- It is up to the code host and the client for it.
theorem Succeeds.same {v : World} (succeeds : Succeeds request w) (same : w.SameHost v) :
    Succeeds request v := by
  obtain ⟨found, fetched, arrived, takes⟩ := succeeds
  obtain ⟨outcome, after, later, ran, ranThere, turned⟩ := fetching_hostOnly request w v same
  cases arrived.symm.trans ran
  exact ⟨found, later, ranThere, turned.host ▸ takes⟩

-- How a run tells whether it succeeded: it did if there is a state without an error, and the state
-- then has a review.
inductive Told (succeeded : Prop) : Except Fault State → Prop
  | silent {state : State} {review : ReviewSet} (fine : succeeded) (silent : state.error = none)
      (reviewed : state.review = some review) :
    Told succeeded (.ok state)
  | reported {state : State} {reason : Text} (failed : ¬succeeded) (said : reason ≠ [])
      (kept : state.error = some reason) :
    Told succeeded (.ok state)
  | broken {fault : Fault} (failed : ¬succeeded) : Told succeeded (.error fault)

theorem Told.of_iff {one two : Prop} {outcome : Except Fault State} (same : one ↔ two)
    (told : Told one outcome) : Told two outcome := by
  rwa [propext same] at told

theorem post_told {review : ReviewSet} (assessed : Assessed request review state)
    (silent : state.error = none) (admits : Host.Admits request.repository request.token w) :
    Told w.host.TakesReview ((post request state).on w).1 := by
  unfold post Run.info
  rw [Run.on_bind, Run.on_log]
  dsimp only
  generalize entered : ({ w with log := _ } : World) = begun
  have same : w.SameHost begun := entered ▸ ⟨rfl, rfl, rfl⟩
  obtain ⟨outcome, after, entries, submitting, ended⟩ :=
    Host.post_on assessed.knows request.repository request.number request.token begun
  have taken := submitting.taken (admits.same same)
  rw [← same.host] at taken
  rw [Run.on_bind, Run.on_refusable, ended]
  cases outcome with
  | ok id => exact .silent (taken.mp rfl) silent assessed.reviewed
  | error fault =>
    have failed : ¬w.host.TakesReview := fun takes => nomatch taken.mpr takes
    dsimp only [Except.mapError]
    by_cases value : (Host.explainedFault fault).isValueFault = true
    · rw [if_pos value]
      exact .reported failed (Fault.message_ne_nil value) rfl
    · rw [if_neg value]
      exact .broken failed

-- A run is over when a fetch was refused or broke off; otherwise it ends with the review, posted or
-- not.
theorem run_goes (request : Request) (w : World) :
    (∃ fault begun, ((fetching request).on w).1 = .error fault ∧ Adds Call.isPreparing w begun ∧
      (fault.isValueFault = true ∧
          (run request).on w = (.ok { error := some fault.message }, begun) ∨
        w.Broken request.token fault ∧ (run request).on w = (.error fault, begun))) ∨
    ∃ found fetched review state begun, (fetching request).on w = (.ok found, fetched) ∧
      Assessed request review state ∧ state.error = none ∧ fetched.SameHost begun ∧
      Adds Call.isPreparing w begun ∧
      (run request).on w =
        (if request.post then post request state else pure state).on begun := by
  obtain ⟨outcome, begun, prepared, course, prepares⟩ := preparing_ends request w
  cases course with
  | broken broken ended =>
    exact .inl ⟨_, begun, ended, prepares, .inr ⟨broken, run_broken prepared⟩⟩
  | refused value ended =>
    rw [run_on request prepared, if_pos (fetched_error value)]
    exact .inl ⟨_, begun, ended, prepares, .inl ⟨value, rfl⟩⟩
  | @reviewed pull files review event fetched _ ended assessed same =>
    have onward : ¬afterFetch none = .done := nofun
    obtain ⟨entries, concluded⟩ := concluding_on request
      { pull := some pull, files, review := some review, event := some event } begun
    rw [run_on request prepared, if_neg onward, concluded]
    refine .inr ⟨_, fetched, review, _, { begun with log := entries }, ended, assessed, rfl,
      ⟨same.host, same.client, same.unmakeable⟩, ?_, rfl⟩
    exact Adds.blind w begun w.log entries prepares

theorem run_told (request : Request) (w : World) :
    Told (Succeeds request w) ((run request).on w).1 := by
  rcases run_goes request w with ⟨fault, begun, ended, -, course⟩ |
    ⟨found, fetched, review, state, begun, ended, assessed, silent, same, -, ran⟩
  · have failed : ¬Succeeds request w := by
      rintro ⟨found, fetched, arrived, -⟩
      rw [arrived] at ended
      cases ended
    rcases course with ⟨value, ran⟩ | ⟨-, ran⟩
    · rw [ran]
      exact .reported failed (Fault.message_ne_nil value) rfl
    · rw [ran]
      exact .broken failed
  · have succeeds_iff :
        (request.post = true → fetched.host.TakesReview) ↔ Succeeds request w := by
      refine ⟨fun takes => ⟨found, fetched, ended, takes⟩, fun succeeds => ?_⟩
      obtain ⟨other, later, again, takes⟩ := succeeds
      cases ended.symm.trans again
      exact takes
    rw [ran]
    apply Told.of_iff succeeds_iff
    cases wanted : request.post with
    | false => exact .silent nofun silent assessed.reviewed
    | true =>
      refine (post_told assessed silent ((fetching_allowed ended).same same)).of_iff ?_
      rw [← same.host]
      exact ⟨fun takes _ => takes, fun takes => takes rfl⟩

theorem run_sameSurface (request : Request) : Moves SameSurface (run request) :=
  run_moves (SameSurface.follows request.token request.analyzer.key)

-- A run ends without a state if something outside breaks off, or if posting fails in a way that is
-- not reported.
theorem run_fails {fault : Fault} {after : World}
    (ended : (run request).on w = (.error fault, after)) :
    w.Broken request.token fault ∨ request.post = true ∧ Host.Unreported fault := by
  rcases run_goes request w with ⟨_, begun, -, -, ⟨-, ran⟩ | ⟨broken, ran⟩⟩ |
    ⟨_, fetched, _, state, begun, arrived, -, -, same, -, ran⟩
  · cases ended.symm.trans ran
  · cases ended.symm.trans ran
    exact .inl broken
  · rw [ran] at ended
    by_cases wanted : request.post = true
    · rw [if_pos wanted] at ended
      have onward := (fetching_fails w request w (.refl w)).1
      rw [arrived] at onward
      have onward : w.Onward begun :=
        onward.trans ⟨⟨[], same.host.symm⟩, same.unmakeable.symm⟩
      have fails := (post_fails w request state begun onward).2
      exact (fails fault (congrArg Prod.fst ended)).imp_right fun unreported => ⟨wanted, unreported⟩
    · rw [if_neg wanted] at ended
      cases ended

theorem eventFor_unapproved (stats : ReviewStats) :
    Verdict.eventFor stats false ≠ "APPROVE" := by
  unfold Verdict.eventFor
  split
  · decide
  · simp

theorem run_unapproved (unapproved : request.approve = false) :
    Moves (Adds fun call => !call.isApproval) (run request) := by
  intro w
  have withholds {begun : World} (prepares : Adds Call.isPreparing w begun) :
      Adds (fun call => !call.isApproval) w begun := by
    refine prepares.mono fun call prepares => ?_
    cases call <;> first | rfl | cases prepares
  rcases run_goes request w with ⟨_, begun, -, prepares, ⟨-, ran⟩ | ⟨-, ran⟩⟩ |
    ⟨_, _, review, state, begun, -, assessed, -, -, prepares, ran⟩
  · rw [ran]
    exact withholds prepares
  · rw [ran]
    exact withholds prepares
  · have event := eventFor_unapproved review.stats
    rw [← unapproved, ← assessed.eventOf_eq] at event
    rw [ran]
    apply (withholds prepares).trans
    by_cases wanted : request.post = true
    · rw [if_pos wanted]
      refine (post_adds assessed begun).mono fun call submits => ?_
      cases call with
      | createReview commit body posted =>
        have under : posted = eventOf state := of_decide_eq_true submits
        simpa [Call.isApproval, under] using event
      | _ => rfl
    · rw [if_neg wanted]
      exact Adds.refl begun

end PullReview
end PatchReview
