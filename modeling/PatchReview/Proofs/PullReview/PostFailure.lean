import PatchReview.Proofs.PullReview.Safety

-- A code host that fails while a review is posted.  Its failure is told as a refusal, and the
-- review of a pull request keeps it as its error, as long as the details of the failure can be gone
-- through; details that cannot end the run instead.
namespace PatchReview

-- What a loop can go through.
def Json.isIterable : Json → Bool
  | .string _ | .illFormed _ | .array _ | .object _ => true
  | .null | .bool _ | .int _ | .real _ => false

-- The first failure that posting meets with: four requests, and the host turns after each.
def CodeHost.postFailure? (host : CodeHost) : Option HostFailure :=
  (host.failures .repository).or ((host.next.failures .pull).or
    ((host.next.next.failures .commits).or (host.next.next.next.failures .createReview)))

theorem CodeHost.after_steady {host : CodeHost} (steady : host.later = none) (calls : List Call) :
    host.after calls = host := by
  have still : host.next = host := by
    unfold next
    rw [steady]
    rfl
  unfold after
  induction calls with
  | nil => rfl
  | cons call rest ih => rwa [List.foldl_cons, still, ite_self]

namespace Host

variable {repository token event : Text} {number status : Int} {data : Json} {body : Option Text}
variable {failure : HostFailure} {w after : World}

-- The details of a failure, if it names any, can be gone through.
def Explainable (data : Json) : Prop :=
  ∀ details, data.field? "errors" = some details → details.isIterable = true

theorem failureFault_explainable (explainable : Explainable data) :
    failureFault status data = .refused (.reviewPost (failureText status data)) := by
  unfold failureFault failureDetails
  cases named : data.field? "errors" with
  | none => rfl
  | some details =>
    have iterable := explainable details named
    cases details with
    | string | illFormed | array | object => rfl
    | null | bool | int | real => cases iterable

theorem failureFault_unexplainable (unexplainable : ¬Explainable data) :
    failureFault status data = .wrongKind := by
  unfold Explainable at unexplainable
  simp only [not_forall] at unexplainable
  obtain ⟨details, named, notIterable⟩ := unexplainable
  unfold failureFault failureDetails
  rw [named]
  cases details with
  | string | illFormed | array | object => exact absurd rfl notIterable
  | null | bool | int | real => rfl

theorem Opening.failed {outcome : Except Fault PullRequest}
    (opening : Opening repository number token w outcome after)
    (admits : Admits repository token w) :
    (∃ failure : HostFailure, outcome = .error failure.fault ∧
      w.host.postFailure? = some failure) ∨
    (w.host.failures .repository = none ∧ w.host.next.failures .pull = none ∧
      outcome.isOk = true ∧ after.host = w.host.next.next) := by
  cases opening with
  | unnamed invalid => cases admits.valid.symm.trans invalid
  | anonymous _ missing => exact absurd missing admits.given
  | unmade _ _ another why =>
    exact (admits.reaches.elim another fun made => nomatch made.symm.trans why).elim
  | noRepository _ failed => exact .inl ⟨_, rfl, by simp [CodeHost.postFailure?, failed]⟩
  | noPull _ found failed => exact .inl ⟨_, rfl, by simp [CodeHost.postFailure?, found, failed]⟩
  | opened _ found answered =>
    refine .inr ⟨found, answered, rfl, ?_⟩
    rw [World.host_calling, World.host_keepHost]
    rfl

-- Where one of the requests fails, that failure is what a post comes to.
theorem Submitting.failed {outcome : Except Fault Int}
    (submitting : Submitting repository number body event token w outcome after)
    (admits : Admits repository token w) (commits : w.host.next.next.commits ≠ [])
    (failed : w.host.postFailure? = some failure) : outcome = .error failure.fault := by
  cases submitting with
  | unopened opening =>
    rcases opening.failed admits with ⟨_, same, first⟩ | ⟨-, -, arrived, -⟩
    · cases first.symm.trans failed
      exact congrArg _ (Except.error.inj same)
    · cases arrived
  | opened opening posting =>
    rcases opening.failed admits with ⟨_, same, -⟩ | ⟨found, answered, -, turned⟩
    · cases same
    rw [turned] at posting
    unfold CodeHost.postFailure? at failed
    rw [found, answered, Option.none_or, Option.none_or] at failed
    cases posting with
    | noCommits first =>
      rw [first] at failed
      cases failed
      rfl
    | noCommit _ missing => exact absurd (List.getLast?_eq_none_iff.mp missing) commits
    | declined listed _ last =>
      rw [listed, last] at failed
      cases failed
      rfl
    | posted listed _ accepted =>
      rw [listed, accepted] at failed
      cases failed

theorem post_failed {submission : Submission} (number : Int)
    (known : knownEvent? submission.event = some event) (admits : Admits repository token w)
    (commits : w.host.next.next.commits ≠ [])
    (failed : w.host.postFailure? = some (.status status data)) :
    ∃ after, (post repository number submission token).on w =
      (.error (failureFault status data), after) := by
  obtain ⟨outcome, after, entries, submitting, ended⟩ := post_on known repository number token w
  cases submitting.failed admits commits failed
  exact ⟨_, ended⟩

theorem fetchPull_opens {pull : PullRequest}
    (ran : (fetchPull repository number token).on w = (.ok pull, after)) :
    Opening repository number token w (.ok pull) after := by
  obtain ⟨outcome, middle, opened, opening⟩ := openPull_on repository number token w
  unfold fetchPull at ran
  rw [explaining_on, opened] at ran
  cases outcome with
  | ok =>
    cases ran
    exact opening
  | error fault =>
    cases fault with
    | service status data =>
      dsimp only [fetchFailure] at ran
      split at ran <;> cases ran
    | _ => cases ran

end Host

namespace PullReview

variable {request : Request} {state : State} {w v fetched : World}

-- What was fetched came from the code host, so it is there whatever was logged before.
theorem fetch_arrives {pull : PullRequest} {files : List ChangedFile}
    (arrived : (fetching request).on w = (.ok (pull, files), fetched)) (same : w.SameHost v) :
    ∃ middle, (fetch request).on v = (.ok { pull := some pull, files }, middle) ∧
      fetched.SameHost middle := by
  unfold fetch Run.info
  rw [Run.on_bind, Run.on_log]
  dsimp only
  generalize entered : ({ v with log := _ } : World) = begun
  have still : w.SameHost begun := entered ▸ ⟨same.host, same.client, same.unmakeable⟩
  obtain ⟨outcome, after, later, ran, ranThere, turned⟩ := fetching_hostOnly request w begun still
  cases ran.symm.trans arrived
  change ∃ middle, (Run.refusable (fetching request) >>= _).on begun = _ ∧ _
  rw [Run.on_bind, Run.on_refusable, ranThere]
  exact ⟨_, rfl, turned.host, turned.client, turned.unmakeable⟩

-- A client that was in reach stays so.
def StillReaches (token : Text) (w after : World) : Prop :=
  w.Reaches .codeHost token → after.Reaches .codeHost token

instance (token : Text) : IsPreorder World (StillReaches token) where
  refl _ := id
  trans _ _ _ first second := second ∘ first

theorem fetching_reaches (request : Request) :
    Run.Moves (StillReaches request.token) (fetching request) := by
  refine fetching_moves (fun w => ?_) fun _ => id
  obtain ⟨outcome, after, ran, opening⟩ :=
    Host.openPull_on request.repository request.number request.token w
  rw [ran]
  cases opening with
  | unnamed | anonymous | unmade => exact id
  | noRepository | noPull | opened => exact fun _ => .inl World.hostClient_keepHost

-- Nothing is fetched without a name for the repository, a token and a client.
theorem fetching_allowed {pull : PullRequest} {files : List ChangedFile}
    (arrived : (fetching request).on w = (.ok (pull, files), fetched)) :
    Host.Admits request.repository request.token fetched := by
  have still := fetching_reaches request w
  rw [arrived] at still
  unfold fetching at arrived
  rw [Run.on_bind] at arrived
  rcases opened : (Host.fetchPull request.repository request.number request.token).on w with
    ⟨fault | pull, middle⟩
  · rw [opened] at arrived
    cases arrived
  · cases Host.fetchPull_opens opened with
    | opened admits => exact ⟨admits.valid, admits.given, still admits.reaches⟩

-- Without a refusal to report, a failed post fails the run.
theorem post_reports {fault : Fault}
    (ended : ∀ begun : World, w.SameHost begun →
      ∃ middle, (Host.post request.repository request.number (submission state) request.token).on
        begun = (.error fault, middle)) :
    ∃ after, (post request state).on w =
      (if fault.isValueFault then .ok { state with error := some fault.message }
        else .error fault, after) := by
  unfold post Run.info
  rw [Run.on_bind, Run.on_log]
  dsimp only
  generalize entered : ({ w with log := _ } : World) = begun
  obtain ⟨middle, ran⟩ := ended begun (entered ▸ ⟨rfl, rfl, rfl⟩)
  rw [Run.on_bind, Run.on_refusable, ran]
  dsimp only
  cases fault.isValueFault with
  | true => exact ⟨_, rfl⟩
  | false => exact ⟨_, rfl⟩

section
variable {pull : PullRequest} {files : List ChangedFile} {status : Int} {data : Json}

-- A run that is to post and has fetched goes as far as the post, and ends with its failure.
theorem run_posts (wanted : request.post = true)
    (arrived : (fetching request).on w = (.ok (pull, files), fetched))
    (commits : fetched.host.next.next.commits ≠ [])
    (failed : fetched.host.postFailure? = some (.status status data)) :
    ∃ review event after, (run request).on w =
      (if (Host.failureFault status data).isValueFault then
        .ok { pull := some pull, files, review := some review, event := some event,
              error := some (Host.failureFault status data).message }
        else .error (Host.failureFault status data), after) := by
  have admits := fetching_allowed arrived
  unfold run Run.info
  rw [Run.on_bind, Run.on_log]
  dsimp only
  generalize entered : ({ w with log := _ } : World) = begun
  obtain ⟨middle, ranFetch, turned⟩ :=
    fetch_arrives (v := begun) arrived (entered ▸ ⟨rfl, rfl, rfl⟩)
  rw [Run.on_bind, ranFetch]
  dsimp only
  have onward : ¬afterFetch none = .done := nofun
  obtain ⟨reviewed, assessing, ranAssess, ⟨review, event, rfl, assessed⟩, consulted⟩ :=
    assess_gives request { pull := some pull, files } middle
  obtain ⟨entries, decided⟩ := decide_on request.post assessing
  have still := turned.trans consulted.same
  rw [if_neg onward, Run.on_bind, ranAssess]
  dsimp only
  rw [Run.on_bind, decided, wanted]
  let noted : World := { assessing with log := entries }
  obtain ⟨after, ended⟩ := post_reports (w := noted) fun begun same => by
    have same : fetched.SameHost begun :=
      still.trans ⟨same.host, same.client, same.unmakeable⟩
    exact Host.post_failed request.number assessed.knows (admits.same same)
      (same.host ▸ commits) (same.host ▸ failed)
  exact ⟨review, event, after, ended⟩

theorem post_failure_told (status : Int) (data : Json) :
    (∀ (repository : Text) (number : Int) (submission : Host.Submission) (token event : Text)
      (w : World), Repository.isValid repository = true → token ≠ [] →
      w.Reaches .codeHost token → Host.knownEvent? submission.event = some event →
      w.host.next.next.commits ≠ [] → w.host.postFailure? = some (.status status data) →
      ∃ fault after, (Host.post repository number submission token).on w = (.error fault, after) ∧
        (Host.Explainable data → fault.isValueFault = true ∧
          fault.message = "Failed to post review: " ++ Host.failureText status data) ∧
        (¬Host.Explainable data → fault = .wrongKind)) ∧
    ∀ (request : Request) (w fetched : World) (pull : PullRequest) (files : List ChangedFile),
      request.post = true → (fetching request).on w = (.ok (pull, files), fetched) →
      fetched.host.next.next.commits ≠ [] →
      fetched.host.postFailure? = some (.status status data) →
      ∃ ended after, (run request).on w = (ended, after) ∧
        (Host.Explainable data → ∃ review event, ended =
          .ok { pull := some pull, files, review := some review, event := some event,
                error := some ("Failed to post review: " ++ Host.failureText status data) }) ∧
        (¬Host.Explainable data → ended = .error .wrongKind) := by
  constructor
  · intro repository number submission token event w valid given reaches known commits failed
    obtain ⟨after, ended⟩ := Host.post_failed number known ⟨valid, given, reaches⟩ commits failed
    refine ⟨_, after, ended, fun explainable => ?_, Host.failureFault_unexplainable⟩
    rw [Host.failureFault_explainable explainable]
    exact ⟨rfl, rfl⟩
  · intro request w fetched pull files wanted arrived commits failed
    obtain ⟨review, event, after, ended⟩ := run_posts wanted arrived commits failed
    refine ⟨_, after, ended, fun explainable => ⟨review, event, ?_⟩, fun unexplainable => ?_⟩
    · rw [Host.failureFault_explainable explainable]
      rfl
    · rw [Host.failureFault_unexplainable unexplainable]
      rfl

end

-- A host that takes no reviews, and whose account of that names no details to go through.
def vagueHost : CodeHost :=
  { readOnlyHost with
    failures endpoint :=
      if endpoint = .createReview then
        some (.status 422 (.object [("message", .string "Unprocessable"), ("errors", .null)]))
      else none }

theorem post_failure_told_vague :
    (∃ after, (Host.post "o/r" 7 {} "t").on { host := vagueHost } = (.error .wrongKind, after)) ∧
      ∃ after, (run posting).on { host := vagueHost } = (.error .wrongKind, after) := by
  have unexplainable : ¬Host.Explainable
      (.object [("message", .string "Unprocessable"), ("errors", .null)]) :=
    fun explainable => nomatch explainable .null rfl
  have commits : vagueHost.commits ≠ [] := nofun
  have told := post_failure_told 422
    (.object [("message", .string "Unprocessable"), ("errors", .null)])
  constructor
  · obtain ⟨fault, after, ended, -, wrong⟩ := told.1 "o/r" 7 {} "t" "COMMENT"
      { host := vagueHost } (by decide +kernel) nofun (.inr rfl) rfl commits rfl
    exact ⟨after, wrong unexplainable ▸ ended⟩
  · have fetched : ((fetching posting).on { host := vagueHost }).1.toOption.isSome = true := by
      decide +kernel
    have steady := fetching_adds posting { host := vagueHost }
    rcases arrived : (fetching posting).on { host := vagueHost } with
      ⟨fault | ⟨pull, files⟩, middle⟩
    · rw [arrived] at fetched
      cases fetched
    · rw [arrived] at steady
      obtain ⟨calls, -, same, -⟩ := steady
      rw [CodeHost.after_steady rfl] at same
      dsimp only at same
      obtain ⟨ended, after, ran, -, wrong⟩ := told.2 posting { host := vagueHost } middle pull files
        rfl arrived (same ▸ commits) (same ▸ rfl)
      exact ⟨after, wrong unexplainable ▸ ran⟩

end PullReview
end PatchReview
