import PatchReview.Proofs.Run.Operations
import PatchReview.Proofs.Text.Numeral

-- What a review of a pull request has done when it is over.  A refused fetch leaves an error and
-- nothing else; without a wish to post nothing is posted; and with it one review at most is posted,
-- to the last commit, and the state tells whether it was accepted.
namespace PatchReview

theorem Text.literal_ne_nil {literal : String} (given : literal ≠ "") : literal.toList ≠ [] :=
  mt String.toList_eq_nil_iff.mp given

theorem Text.Utf8Error.message_ne_nil (cause : Text.Utf8Error) : cause.message ≠ [] := by
  unfold message
  split
  all_goals repeat with_reducible apply List.append_ne_nil_of_left_ne_nil
  all_goals exact Text.literal_ne_nil (by decide)

-- An empty error would count as none, so it matters that every message begins with some words.
theorem Refusal.message_ne_nil (cause : Refusal) : cause.message ≠ [] := by
  unfold message Text.tooLongMessage
  split
  case h_5 undecoded => exact undecoded.message_ne_nil
  all_goals repeat with_reducible apply List.append_ne_nil_of_left_ne_nil
  all_goals exact Text.literal_ne_nil (by decide)

theorem Fault.message_ne_nil {fault : Fault} (value : fault.isValueFault = true) :
    fault.message ≠ [] := by
  cases fault with
  | refused cause => exact cause.message_ne_nil
  | invalid report =>
    change report.message ≠ []
    unfold Validation.Report.message
    repeat with_reducible apply List.append_ne_nil_of_left_ne_nil
    exact Text.ofNat_ne_nil _
  | undecodable cause => exact cause.message_ne_nil
  | _ => cases value

namespace Call

theorem isPosting_of_isFetching {call : Call} (fetching : call.isFetching = true) :
    call.isPosting = false := by
  cases call <;> first | rfl | cases fetching

theorem isPosting_of_isConsulting {call : Call} (consulting : call.isConsulting = true) :
    call.isPosting = false := by
  cases call <;> first | rfl | cases consulting

end Call

namespace PullReview

open Reviewing (EntryOf)

variable {request : Request} {state last : State} {w v after : World}

-- One of the two fetches is refused.
def FetchRefused (request : Request) (w : World) : Prop :=
  ∃ fault, fault.isValueFault = true ∧ ((fetching request).on w).1 = .error fault

theorem fetching_hostOnly (request : Request) : Host.HostOnly (fetching request) :=
  (Host.HostOnly.fetchPull _ _ _).bind fun _ =>
    (Host.HostOnly.fetchFiles _ _ _).bind fun _ => .pure _

theorem fetching_same (request : Request) (same : w.SameHost v) :
    ((fetching request).on w).1 = ((fetching request).on v).1 := by
  obtain ⟨outcome, after, later, ran, ranThere, -⟩ := fetching_hostOnly request w v same
  rw [ran, ranThere]

theorem fetching_adds (request : Request) :
    Run.Moves (Adds Call.isFetching) (fetching request) := by
  have opens : Run.Moves (Adds Call.isFetching)
      (Host.openPull request.repository request.number request.token) := by
    intro w
    obtain ⟨outcome, after, ran, opening⟩ :=
      Host.openPull_on request.repository request.number request.token w
    rw [ran]
    exact opening.adds
  exact fetching_moves opens (Adds.calling (by simp [Call.isFetching]))

-- What a fetch comes to: a state with the error alone, or with all that was fetched; what cannot be
-- reported goes through.
inductive Fetched (request : Request) (w : World) : Except Fault State → Prop
  | refused {fault : Fault} (value : fault.isValueFault = true)
      (ended : ((fetching request).on w).1 = .error fault) :
    Fetched request w (.ok { error := some fault.message })
  | arrived {pull : PullRequest} {files : List ChangedFile}
      (ended : ((fetching request).on w).1 = .ok (pull, files)) :
    Fetched request w (.ok { pull := some pull, files })
  | broken {fault : Fault} (escapes : fault.isValueFault = false)
      (ended : ((fetching request).on w).1 = .error fault) :
    Fetched request w (.error fault)

theorem fetch_ends (request : Request) (w : World) :
    ∃ outcome after, (fetch request).on w = (outcome, after) ∧ Fetched request w outcome ∧
      Adds Call.isFetching w after := by
  unfold fetch Run.info
  rw [Run.on_bind, Run.on_log]
  dsimp only
  generalize entered : ({ w with log := _ } : World) = begun
  have same : begun.SameHost w := entered ▸ ⟨rfl, rfl, rfl⟩
  have added := (entered ▸ Adds.refl w : Adds _ w begun).trans (fetching_adds request begun)
  have decided := fetching_same request same
  change ∃ _ _, (Run.refusable (fetching request) >>= _).on begun = _ ∧ _
  rw [Run.on_bind, Run.on_refusable]
  generalize (fetching request).on begun = fetched at added decided ⊢
  obtain ⟨fault | ⟨pull, files⟩, middle⟩ := fetched
  · dsimp only at added decided ⊢
    cases value : fault.isValueFault with
    | true => exact ⟨_, _, rfl, .refused value decided.symm, added⟩
    | false => exact ⟨_, _, rfl, .broken value decided.symm, added⟩
  · exact ⟨_, _, rfl, .arrived decided.symm, added⟩

-- Only the language model was asked, and the code host is reached as before.
structure Consulted (w after : World) : Prop where
  adds : Adds Call.isConsulting w after
  same : w.SameHost after

namespace Consulted

theorem refl (w : World) : Consulted w w := ⟨Adds.refl w, .refl w⟩

instance : IsPreorder World Consulted where
  refl := refl
  trans _ _ _ first second := ⟨first.adds.trans second.adds, first.same.trans second.same⟩

theorem blind : Run.LogBlind Consulted := fun w after before later consulted =>
  ⟨Adds.blind w after before later consulted.adds,
    ⟨consulted.same.host, consulted.same.client, consulted.same.unmakeable⟩⟩

theorem ask (system user key model : Text) :
    Run.Moves Consulted (LanguageModel.ask system user key model) := by
  refine LanguageModel.ask_moves fun _ w => ⟨LanguageModel.asked_adds system user key model w, ?_⟩
  have kept : w.SameHost (w.keepModel key) := by
    unfold World.keepModel
    split
    · exact .refl w
    · exact ⟨rfl, rfl, rfl⟩
  exact kept.trans ⟨rfl, rfl, rfl⟩

end Consulted

-- The review has an entry for each file, in order, and its totals decide the event.
structure Assessed (request : Request) (review : ReviewSet) (state : State) : Prop where
  reviewed : state.review = some review
  matched : List.Forall₂ (EntryOf fun file analysis => analysis.filename = file.filename)
    state.files review.files
  event : state.event = some (Verdict.eventFor review.stats request.approve)

-- Reviewing what was fetched cannot fail, whatever the analyzer meets with.
theorem assess_gives (request : Request) (state : State) :
    Run.Gives (fun w assessed after => (∃ review event,
        assessed = { state with review := some review, event := some event } ∧
        Assessed request review assessed) ∧ Consulted w after)
      (assess request state) := by
  intro w
  unfold assess Run.info
  rw [Run.on_bind, Run.on_log]
  dsimp only
  obtain ⟨files, middle, ran, matched, consulted⟩ := Reviewing.reviewAll_gives Consulted.blind
    (fun file analysis => analysis.filename = file.filename)
    (Analyzer.attempt_gives fun system user => Consulted.ask system user request.analyzer.key)
    state.files { w with log := _ }
  obtain ⟨review, entries, summed, content, -⟩ :=
    Reviewing.sumUp_on files .pullRequest (state.pull.map headingOf) middle
  rw [Run.on_bind, ran]
  dsimp only
  rw [Run.on_bind, summed]
  refine ⟨_, _, rfl, ⟨review, _, rfl, rfl, content ▸ matched, rfl⟩, ?_⟩
  exact Consulted.blind w middle _ entries consulted

theorem decide_on (wantsPost : Bool) (w : World) :
    ∃ entries, (decide wantsPost).on w = (.ok (afterReview wantsPost), { w with log := entries }) :=
  ⟨_, rfl⟩

-- Nothing is said of a post.
structure Unposted (state : State) : Prop where
  posted : state.posted = false
  reviewId : state.reviewId = none
  error : state.error = none

-- One review at most goes out, to the last commit.
def Requested (host : CodeHost) (review : ReviewSet) (event : Text) (requests : List Call) : Prop :=
  requests = [] ∨ requests = [.getCommits] ∨
    ∃ commit, host.commits.getLast? = some commit ∧
      requests = [.getCommits, .createReview commit (some (MarkdownReport.posted review)) event]

-- The end of a run that was to post: these are its last calls, and the host behaves in this way
-- when the first of them is made.
structure Concluded (host : CodeHost) (review : ReviewSet) (event : Text) (state : State)
    (requests : List Call) : Prop where
  requested : Requested host review event requests
  posted_iff : state.posted = true ↔
    (∃ commit body event, .createReview commit body event ∈ requests) ∧
      host.next.failures .createReview = none
  accepted : state.posted = true → state.reviewId = some host.next.reviewId ∧ state.error = none
  declined : state.posted = false →
    state.reviewId = none ∧ ∃ reason, reason ≠ [] ∧ state.error = some reason

-- How the state tells what became of a post: by the number of the review, or else by a reason.
structure Tells (state : State) (id : Option Int) : Prop where
  posted : state.posted = id.isSome
  reviewId : state.reviewId = id
  silent : id.isSome = true → state.error = none
  reason : id.isSome = false → ∃ reason, reason ≠ [] ∧ state.error = some reason

theorem Tells.declined {host : CodeHost} {review : ReviewSet} {event : Text} {requests : List Call}
    (tells : Tells state none) (requested : Requested host review event requests)
    (refused : (∃ commit body event, .createReview commit body event ∈ requests) →
      host.next.failures .createReview ≠ none) :
    Concluded host review event state requests := by
  have posted : state.posted = false := tells.posted
  refine ⟨requested, ?_, ?_, fun _ => ⟨tells.reviewId, tells.reason rfl⟩⟩
  · rw [posted]
    exact ⟨nofun, fun done => absurd done.2 (refused done.1)⟩
  · rw [posted]
    exact nofun

theorem Tells.concluded {host : CodeHost} {review : ReviewSet} {event : Text}
    {outcome : Except Fault Int} {requests : List Call} (tells : Tells state outcome.toOption)
    (posting : Host.Posting host (some (MarkdownReport.posted review)) event outcome requests) :
    Concluded host review event state requests := by
  cases posting with
  | noCommits | noCommit => exact tells.declined (.inr (.inl rfl)) (by simp)
  | declined answered last failed =>
    exact tells.declined (.inr (.inr ⟨_, last, rfl⟩)) (by simp [failed])
  | posted answered last accepted =>
    have posted : state.posted = true := tells.posted
    refine ⟨.inr (.inr ⟨_, last, rfl⟩), ?_, fun _ => ⟨tells.reviewId, tells.silent rfl⟩, ?_⟩
    · rw [posted]
      exact ⟨fun _ => ⟨⟨_, _, _, .tail _ (.head _)⟩, accepted⟩, fun _ => rfl⟩
    · rw [posted]
      exact nofun

theorem eventFor_known (stats : ReviewStats) (approve : Bool) :
    Host.knownEvent? (.string (Verdict.eventFor stats approve)) =
      some (Verdict.eventFor stats approve) := by
  have known : Verdict.eventFor stats approve ∈ Host.knownEvents := by
    unfold Verdict.eventFor
    split
    · decide
    · split <;> decide
  exact if_pos known

namespace Assessed

variable {review : ReviewSet} (assessed : Assessed request review state)
include assessed

theorem eventOf_eq : eventOf state = Verdict.eventFor review.stats request.approve := by
  unfold eventOf
  rw [assessed.event]
  rfl

theorem knows : Host.knownEvent? (submission state).event = some (eventOf state) := by
  change Host.knownEvent? (.string (eventOf state)) = _
  rw [assessed.eventOf_eq, eventFor_known]

end Assessed

-- Apart from what is said of the post, the state stays.
theorem post_tells {review : ReviewSet} (assessed : Assessed request review state)
    (unposted : Unposted state) (ran : (post request state).on w = (.ok last, after)) :
    ∃ begun outcome middle, begun.calls = w.calls ∧ begun.host = w.host ∧
      Host.Submitting request.repository request.number (some (MarkdownReport.posted review))
        (Verdict.eventFor review.stats request.approve) request.token begun outcome middle ∧
      after.calls = middle.calls ∧ Tells last outcome.toOption ∧
      Assessed request review last ∧ last.pull = state.pull ∧ last.files = state.files := by
  have event := assessed.eventOf_eq
  have body : (submission state).body = some (MarkdownReport.posted review) := by
    unfold submission
    rw [assessed.reviewed]
    rfl
  unfold post Run.info at ran
  rw [Run.on_bind, Run.on_log] at ran
  dsimp only at ran
  generalize entered : ({ w with log := _ } : World) = begun at ran
  obtain ⟨outcome, middle, entries, submitting, ended⟩ :=
    Host.post_on assessed.knows request.repository request.number request.token begun
  rw [event, body] at submitting
  refine ⟨begun, outcome, middle, entered ▸ rfl, entered ▸ rfl, submitting, ?_⟩
  rw [Run.on_bind, Run.on_refusable, ended] at ran
  cases outcome with
  | error fault =>
    dsimp only [Except.mapError] at ran
    by_cases value : (Host.explainedFault fault).isValueFault = true
    · rw [if_pos value] at ran
      dsimp only at ran
      rw [Run.on_bind, Run.on_log] at ran
      cases ran
      refine ⟨rfl, ⟨unposted.posted, unposted.reviewId, nofun, ?_⟩, ⟨?_, ?_, ?_⟩, rfl, rfl⟩
      · exact fun _ => ⟨_, Fault.message_ne_nil value, rfl⟩
      · exact assessed.reviewed
      · exact assessed.matched
      · exact assessed.event
    · rw [if_neg value] at ran
      cases ran
  | ok id =>
    dsimp only [Except.mapError] at ran
    rw [Run.on_bind] at ran
    cases ran
    refine ⟨rfl, ⟨rfl, rfl, fun _ => unposted.error, nofun⟩, ⟨?_, ?_, ?_⟩, rfl, rfl⟩
    · exact assessed.reviewed
    · exact assessed.matched
    · exact assessed.event

theorem post_ends {review : ReviewSet} (assessed : Assessed request review state)
    (unposted : Unposted state) (ran : (post request state).on w = (.ok last, after)) :
    (Assessed request review last ∧ last.pull = state.pull ∧ last.files = state.files) ∧
    ∃ opening requests, after.calls = w.calls ++ (opening ++ requests) ∧
      (∀ call ∈ opening, call.isFetching = true) ∧
      Concluded (w.host.after opening) review (Verdict.eventFor review.stats request.approve) last
        requests := by
  obtain ⟨begun, outcome, middle, calls, host, submitting, ended, tells, still⟩ :=
    post_tells assessed unposted ran
  refine ⟨still, ?_⟩
  rw [ended, ← calls, ← host]
  cases submitting with
  | unopened opening =>
    obtain ⟨opened, added, -, kinds⟩ := opening.adds
    refine ⟨opened, [], ?_, kinds, ?_⟩
    · rw [added, List.append_nil]
    · exact tells.declined (.inl rfl) nofun
  | opened opening posting entries =>
    obtain ⟨opened, added, turned, kinds⟩ := opening.adds
    refine ⟨opened, _, ?_, kinds, tells.concluded (turned ▸ posting)⟩
    unfold World.calling
    dsimp only
    rw [added, List.append_assoc]

theorem fetched_error {fault : Fault} (value : fault.isValueFault = true) :
    afterFetch (some fault.message) = .done := by
  unfold afterFetch
  rw [if_pos]
  cases said : fault.message with
  | nil => exact absurd said (Fault.message_ne_nil value)
  | cons c rest => rfl

-- What holds of a state with a review, and of the calls that led to it.
structure Reviewed (request : Request) (host : CodeHost) (review : ReviewSet) (state : State)
    (calls : List Call) : Prop where
  assessed : Assessed request review state
  unposted : request.post = false → Unposted state ∧ ∀ call ∈ calls, call.isPosting = false
  concluded : request.post = true → ∃ before requests, calls = before ++ requests ∧
    (∀ call ∈ before, call.isPosting = false) ∧
    Concluded (host.after before) review (Verdict.eventFor review.stats request.approve) state
      requests

theorem Reviewed.behind {host : CodeHost} {review : ReviewSet} {earlier calls : List Call}
    (silent : ∀ call ∈ earlier, call.isPosting = false)
    (reviewed : Reviewed request (host.after earlier) review state calls) :
    Reviewed request host review state (earlier ++ calls) := by
  have joined {later : List Call} (kept : ∀ call ∈ later, call.isPosting = false) :
      ∀ call ∈ earlier ++ later, call.isPosting = false := by
    intro call member
    rcases List.mem_append.mp member with early | late
    · exact silent call early
    · exact kept call late
  refine ⟨reviewed.assessed, ?_, ?_⟩
  · intro unwanted
    obtain ⟨unposted, kept⟩ := reviewed.unposted unwanted
    exact ⟨unposted, joined kept⟩
  · intro wanted
    obtain ⟨before, requests, rfl, kept, concluded⟩ := reviewed.concluded wanted
    refine ⟨earlier ++ before, requests, by rw [List.append_assoc], joined kept, ?_⟩
    rw [CodeHost.after_append]
    exact concluded

theorem decided_ends {review : ReviewSet} (assessed : Assessed request review state)
    (unposted : Unposted state)
    (ran : (if afterReview request.post = .posting then post request state else pure state).on w =
      (.ok last, after)) :
    last.pull = state.pull ∧ last.files = state.files ∧
    ∃ calls, after.calls = w.calls ++ calls ∧ Reviewed request w.host review last calls := by
  cases wanted : request.post with
  | false =>
    rw [wanted] at ran
    cases ran
    refine ⟨rfl, rfl, [], (List.append_nil _).symm, assessed, fun _ => ⟨unposted, nofun⟩, ?_⟩
    rw [wanted]
    exact nofun
  | true =>
    rw [wanted] at ran
    obtain ⟨⟨assessed, pull, files⟩, opening, requests, added, opens, concluded⟩ :=
      post_ends assessed unposted ran
    have silent call member := Call.isPosting_of_isFetching (opens call member)
    refine ⟨pull, files, opening ++ requests, added, assessed, ?_, fun _ => ?_⟩
    · rw [wanted]
      exact nofun
    · exact ⟨opening, requests, rfl, silent, concluded⟩

theorem run_safe (ran : (run request).on w = (.ok state, after)) :
    ∃ calls, after.calls = w.calls ++ calls ∧
      (FetchRefused request w →
        (∃ reason, reason ≠ [] ∧ state = { error := some reason }) ∧
        ∀ call ∈ calls, call.isFetching = true) ∧
      (¬FetchRefused request w → ∃ pull files review,
        ((fetching request).on w).1 = .ok (pull, files) ∧
        state.pull = some pull ∧ state.files = files ∧
        Reviewed request w.host review state calls) := by
  unfold run Run.info at ran
  rw [Run.on_bind, Run.on_log] at ran
  dsimp only at ran
  generalize entered : ({ w with log := _ } : World) = begun at ran
  have same : begun.SameHost w := entered ▸ ⟨rfl, rfl, rfl⟩
  have start : begun.calls = w.calls := entered ▸ rfl
  obtain ⟨outcome, middle, fetched, course, fetches, added, turned, fetching⟩ :=
    fetch_ends request begun
  rw [Run.on_bind, fetched] at ran
  cases course with
  | broken => cases ran
  | @refused fault value ended =>
    dsimp only at ran
    rw [if_pos (fetched_error value)] at ran
    cases ran
    rw [fetching_same request same] at ended
    refine ⟨fetches, start ▸ added, fun _ => ⟨⟨_, Fault.message_ne_nil value, rfl⟩, fetching⟩, ?_⟩
    intro arrived
    exact absurd ⟨fault, value, ended⟩ arrived
  | @arrived pull files ended =>
    dsimp only at ran
    rw [fetching_same request same] at ended
    have arrived : ¬FetchRefused request w := by
      rintro ⟨fault, -, refused⟩
      cases ended.symm.trans refused
    have onward : ¬afterFetch none = .done := nofun
    obtain ⟨reviewed, assessing, ranAssess, ⟨review, event, rfl, assessed⟩,
      ⟨consults, asked, still, consulting⟩, -⟩ :=
      assess_gives request { pull := some pull, files } middle
    obtain ⟨entries, decided⟩ := decide_on request.post assessing
    rw [if_neg onward, Run.on_bind, ranAssess] at ran
    dsimp only at ran
    rw [Run.on_bind, decided] at ran
    obtain ⟨hasPull, hasFiles, calls, posts, known⟩ :=
      decided_ends assessed ⟨rfl, rfl, rfl⟩ ran
    refine ⟨fetches ++ (consults ++ calls), ?_, fun refused => absurd refused arrived, fun _ =>
      ⟨pull, files, review, ended, hasPull, hasFiles, ?_⟩⟩
    · rw [posts, asked, added, start, List.append_assoc, List.append_assoc]
    · refine .behind (fun call member => Call.isPosting_of_isFetching (fetching call member)) ?_
      refine .behind (fun call member => Call.isPosting_of_isConsulting (consulting call member)) ?_
      rw [← same.host, ← turned, ← still]
      exact known

-- A host that shows one change and takes no reviews.
def readOnlyHost : CodeHost where
  pull number := { number := .int number }
  files := [{ filename := .string "a.py", status := .string "modified", additions := .int 1,
              deletions := .int 0, patch := .string "+x = 1", previousFilename := .null }]
  commits := ["c1"]
  reviewId := 1
  failures endpoint := if endpoint = .createReview then some (.status 422 .null) else none

def posting : Request := { repository := "o/r", number := 7, token := "t", post := true }

theorem run_safe_declined : ∃ state after,
    (run posting).on { host := readOnlyHost } = (.ok state, after) ∧ state.posted = false ∧
      ∃ review, Reviewed posting readOnlyHost review state after.calls := by
  have told : ((run posting).on { host := readOnlyHost }).1.toOption.map State.posted =
      some false := by decide +kernel
  have fetched : ((fetching posting).on { host := readOnlyHost }).1.toOption.isSome = true := by
    decide +kernel
  rcases ran : (run posting).on { host := readOnlyHost } with ⟨fault | state, after⟩
  · rw [ran] at told
    cases told
  · rw [ran] at told
    obtain ⟨calls, added, -, reviewed⟩ := run_safe ran
    have arrived : ¬FetchRefused posting { host := readOnlyHost } := by
      rintro ⟨fault, -, refused⟩
      rw [refused] at fetched
      cases fetched
    obtain ⟨-, -, review, -, -, -, known⟩ := reviewed arrived
    refine ⟨state, after, rfl, Option.some.inj told, review, ?_⟩
    rw [added]
    exact known

end PullReview
end PatchReview
