import PatchReview.Proofs.Host.Failing
import PatchReview.Proofs.PullReview.PostFailure

-- How a review of a pull request goes, also where it ends early.  All that comes before the
-- decision to post is done without regard to that decision, and fails only where something outside
-- breaks off; what comes after it is the post, which changes nothing of what was found.
namespace PatchReview

open Run (FailsWith Moves)

namespace Call

-- Before the decision, changes are fetched and the language model is asked.
def isPreparing (call : Call) : Bool := call.isFetching || call.isConsulting

-- A review is posted under this event, or the call only prepares for that.
def isSubmitting (event : Text) : Call → Bool
  | getCommits => true
  | createReview _ _ posted => posted = event
  | call => call.isFetching

theorem isSubmitting_of_isFetching {call : Call} (event : Text)
    (fetching : call.isFetching = true) : call.isSubmitting event = true := by
  cases call <;> first | exact fetching | cases fetching

end Call

theorem Adds.mono {kind other : Call → Bool} {w after : World}
    (wider : ∀ call, kind call = true → other call = true) (adds : Adds kind w after) :
    Adds other w after := by
  obtain ⟨calls, added, host, kinds⟩ := adds
  exact ⟨calls, added, host, fun call member => wider call (kinds call member)⟩

-- Whichever request fails, the calls before it were made, and none for another event.
theorem Host.Submitting.adds {repository token event : Text} {number : Int} {body : Option Text}
    {w after : World} {outcome : Except Fault Int}
    (submitting : Submitting repository number body event token w outcome after) :
    Adds (Call.isSubmitting event) w after := by
  cases submitting with
  | unopened opening => exact opening.adds.mono fun _ => Call.isSubmitting_of_isFetching event
  | @opened _ middle _ requests opening posting entries =>
    have kinds : ∀ call ∈ requests, call.isSubmitting event = true := by
      cases posting <;> simp [Call.isSubmitting]
    apply (opening.adds.mono fun _ => Call.isSubmitting_of_isFetching event).trans
    exact Adds.blind middle _ middle.log entries (Adds.calling kinds middle)

namespace PullReview

variable {request : Request} {state last : State} {w begun after : World}

theorem fetching_fails (start : World) (request : Request) :
    FailsWith start (fun fault => fault.isValueFault = true ∨ start.Broken request.token fault)
      (fetching request) := by
  refine (Host.fetchPull_fails start _ _ _).bind fun pull => ?_
  exact (Host.fetchFiles_fails start _ _ _).bind fun _ => .pure _

-- What comes before the decision: the fetch and, unless it was refused, the review.
def preparing (request : Request) : Run State := do
  Run.info .pipeline ("🤖 Running " ++ Narrative.product ++ " on " ++ request.repository ++
    " PR #" ++ Text.ofInt request.number)
  let state ← fetch request
  if afterFetch state.error = .done then return state else assess request state

-- What comes after it.
def concluding (request : Request) (state : State) : Run State := do
  if (← decide request.post) = .posting then post request state else return state

-- What is ready when the decision comes up: an error alone, or a review of all that was fetched; if
-- it comes up at all.
inductive Prepared (request : Request) (w : World) : Except Fault State → World → Prop
  | refused {fault : Fault} {begun : World} (value : fault.isValueFault = true)
      (ended : ((fetching request).on w).1 = .error fault) :
    Prepared request w (.ok { error := some fault.message }) begun
  | reviewed {pull : PullRequest} {files : List ChangedFile} {review : ReviewSet} {event : Text}
      {fetched begun : World} (ended : (fetching request).on w = (.ok (pull, files), fetched))
      (assessed : Assessed request review
        { pull := some pull, files, review := some review, event := some event })
      (same : fetched.SameHost begun) :
    Prepared request w
      (.ok { pull := some pull, files, review := some review, event := some event }) begun
  | broken {fault : Fault} {begun : World} (broken : w.Broken request.token fault)
      (ended : ((fetching request).on w).1 = .error fault) :
    Prepared request w (.error fault) begun

theorem preparing_ends (request : Request) (w : World) :
    ∃ outcome begun, (preparing request).on w = (outcome, begun) ∧
      Prepared request w outcome begun ∧ Adds Call.isPreparing w begun := by
  unfold preparing Run.info
  rw [Run.on_bind, Run.on_log]
  dsimp only
  generalize entered : ({ w with log := _ } : World) = started
  have same : started.SameHost w := entered ▸ ⟨rfl, rfl, rfl⟩
  have kept : Adds Call.isPreparing w started := entered ▸ Adds.refl w
  obtain ⟨outcome, middle, ran, course, fetches⟩ := fetch_ends request started
  have prepares := kept.trans <|
    fetches.mono fun call fetching => by simp [Call.isPreparing, fetching]
  rw [Run.on_bind, ran]
  cases course with
  | refused value ended =>
    dsimp only
    rw [if_pos (fetched_error value)]
    exact ⟨_, _, rfl, .refused value (fetching_same request same ▸ ended), prepares⟩
  | broken escapes ended =>
    rw [fetching_same request same] at ended
    have broken := (fetching_fails w request).now (Prod.ext ended rfl)
    exact ⟨_, _, rfl, .broken (broken.resolve_left (by simp [escapes])) ended, prepares⟩
  | @arrived pull files ended =>
    rw [fetching_same request same] at ended
    rcases arrived : (fetching request).on w with ⟨outcome, fetched⟩
    rw [arrived] at ended
    cases ended
    obtain ⟨again, ranAgain, turned⟩ := fetch_arrives arrived same.symm
    cases ran.symm.trans ranAgain
    obtain ⟨reviewed, assessing, ranAssess, ⟨review, event, rfl, assessed⟩, consulted⟩ :=
      assess_gives request { pull := some pull, files } middle
    have onward : ¬afterFetch none = .done := nofun
    dsimp only
    rw [if_neg onward, ranAssess]
    refine ⟨_, _, rfl, .reviewed arrived assessed (turned.trans consulted.same),
      prepares.trans ?_⟩
    exact consulted.adds.mono fun call consulting => by simp [Call.isPreparing, consulting]

theorem error_assess (ran : (assess request state).on w = (.ok last, after)) :
    last.error = state.error := by
  obtain ⟨reviewed, assessing, ranAssess, ⟨review, event, rfl, -⟩, -⟩ :=
    assess_gives request state w
  cases ran.symm.trans ranAssess
  rfl

-- A run is what comes before the decision and then, if the fetch left no error, what comes after.
theorem run_on (request : Request) (prepared : (preparing request).on w = (.ok state, begun)) :
    (run request).on w =
      if afterFetch state.error = .done then (.ok state, begun)
      else (concluding request state).on begun := by
  unfold preparing Run.info at prepared
  unfold run Run.info
  rw [Run.on_bind, Run.on_log] at prepared ⊢
  dsimp only at prepared ⊢
  generalize ({ w with log := _ } : World) = started at prepared ⊢
  rw [Run.on_bind] at prepared ⊢
  rcases fetched : (fetch request).on started with ⟨fault | early, middle⟩
  · rw [fetched] at prepared
    cases prepared
  rw [fetched] at prepared
  dsimp only at prepared ⊢
  by_cases stops : afterFetch early.error = .done
  · rw [if_pos stops] at prepared ⊢
    cases prepared
    rw [if_pos stops]
    rfl
  · rw [if_neg stops] at prepared ⊢
    rw [error_assess prepared, if_neg stops, Run.on_bind, prepared]
    rfl

-- Without a state there is nothing to decide about.
theorem run_broken {fault : Fault} (prepared : (preparing request).on w = (.error fault, begun)) :
    (run request).on w = (.error fault, begun) := by
  unfold preparing Run.info at prepared
  unfold run Run.info
  rw [Run.on_bind, Run.on_log] at prepared ⊢
  dsimp only at prepared ⊢
  generalize ({ w with log := _ } : World) = started at prepared ⊢
  rw [Run.on_bind] at prepared ⊢
  rcases fetched : (fetch request).on started with ⟨early | early, middle⟩
  · rw [fetched] at prepared
    cases prepared
    rfl
  rw [fetched] at prepared
  dsimp only at prepared
  split at prepared
  · cases prepared
  · obtain ⟨_, _, assessed, -⟩ := assess_gives request early middle
    cases assessed.symm.trans prepared

theorem concluding_on (request : Request) (state : State) (w : World) :
    ∃ entries, (concluding request state).on w =
      (if request.post then post request state else pure state).on { w with log := entries } := by
  obtain ⟨entries, decided⟩ := decide_on request.post w
  refine ⟨entries, ?_⟩
  unfold concluding
  rw [Run.on_bind, decided]
  cases request.post <;> rfl

theorem post_fails (start : World) (request : Request) (state : State) :
    FailsWith start (fun fault => start.Broken request.token fault ∨ Host.Unreported fault)
      (post request state) := by
  have escapes : FailsWith start
      (fun fault => start.Broken request.token fault ∨ Host.Unreported fault)
      (Run.refusable (Host.post request.repository request.number (submission state)
        request.token)) := by
    refine (Host.post_fails start _ _ _ _).refusable.mono fun fault escaped => ?_
    exact escaped.1.resolve_left (by simp [escaped.2])
  refine (FailsWith.log _ _ _).bind fun _ => escapes.bind fun posted => ?_
  split
  · exact (FailsWith.log _ _ _).bind fun _ => .pure _
  · exact (FailsWith.log _ _ _).bind fun _ => .pure _

theorem post_adds {review : ReviewSet} (assessed : Assessed request review state) :
    Moves (Adds (Call.isSubmitting (eventOf state))) (post request state) := by
  have submits : Moves (Adds (Call.isSubmitting (eventOf state)))
      (Host.post request.repository request.number (submission state) request.token) := by
    intro w
    obtain ⟨outcome, after, entries, submitting, ended⟩ :=
      Host.post_on assessed.knows request.repository request.number request.token w
    rw [ended]
    exact Adds.blind w after w.log entries submitting.adds
  refine (Moves.log Adds.blind _ _ _).bind fun _ => submits.refusable.bind fun posted => ?_
  split
  · exact (Moves.log Adds.blind _ _ _).bind fun _ => .pure _
  · exact (Moves.log Adds.blind _ _ _).bind fun _ => .pure _

end PullReview
end PatchReview
