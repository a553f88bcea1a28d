import PatchReview.Proofs.Repository.Named

-- The requests behind a posted review, as a plan.  Requests are made in order, up to the first that
-- fails; the review is the last of the plan, so it is posted once or not at all.
namespace PatchReview

def Call.endpoint? : Call → Option Endpoint
  | getRepository _ => some .repository
  | getPull _ => some .pull
  | getFiles => some .files
  | getCommits => some .commits
  | createReview .. => some .createReview
  | git .. | hostClient _ | modelClient _ | generate .. => none

def Call.isReview : Call → Bool
  | createReview .. => true
  | _ => false

namespace CodeHost

variable {host : CodeHost} {first second plan : List Call} {call : Call}

def failure? (host : CodeHost) (call : Call) : Option HostFailure :=
  call.endpoint?.bind host.failures

-- What is made of a plan: no call follows one that fails.  The host turns from call to call.
def made : CodeHost → List Call → List Call
  | _, [] => []
  | host, call :: rest =>
    match host.failure? call with
    | some _ => [call]
    | none => call :: (host.after [call]).made rest

-- None of the calls of a plan fails when its turn comes.
def Answers : CodeHost → List Call → Prop
  | _, [] => True
  | host, call :: rest => host.failure? call = none ∧ (host.after [call]).Answers rest

theorem made_failed {failure : HostFailure} (failed : host.failure? call = some failure)
    (rest : List Call) : host.made (call :: rest) = [call] := by
  rw [made, failed]

theorem made_answered (answered : host.failure? call = none) (rest : List Call) :
    host.made (call :: rest) = call :: (host.after [call]).made rest := by
  rw [made, answered]

theorem made_single (host : CodeHost) (call : Call) : host.made [call] = [call] := by
  unfold made
  split <;> rfl

theorem made_pair {second : Call} (answered : host.failure? call = none) :
    host.made [call, second] = [call, second] := by
  rw [made_answered answered, made_single]

theorem isPrefix_made (host : CodeHost) (plan : List Call) : host.made plan <+: plan := by
  induction plan generalizing host with
  | nil => exact List.prefix_rfl
  | cons call rest ih =>
    unfold made
    split
    · exact List.prefix_append [call] rest
    · exact (List.prefix_cons_inj call).mpr (ih _)

theorem answers_append :
    host.Answers (first ++ second) ↔ host.Answers first ∧ (host.after first).Answers second := by
  induction first generalizing host with
  | nil => exact (true_and _).symm.to_iff
  | cons call rest ih =>
    rw [List.cons_append, Answers, Answers, ih, and_assoc, ← CodeHost.after_append]
    rfl

-- The second part of a plan is begun only if all calls of the first are answered.
theorem made_append_of_answers (answers : host.Answers first) (second : List Call) :
    host.made (first ++ second) = first ++ (host.after first).made second := by
  induction first generalizing host with
  | nil => rfl
  | cons call rest ih =>
    obtain ⟨answered, later⟩ := answers
    rw [List.cons_append, made_answered answered, ih later, ← CodeHost.after_append]
    rfl

theorem made_of_answers (answers : host.Answers plan) : host.made plan = plan := by
  simpa [made] using made_append_of_answers answers []

theorem made_append_of_not_answers (failing : ¬host.Answers first) (second : List Call) :
    host.made (first ++ second) = host.made first := by
  induction first generalizing host with
  | nil => exact absurd trivial failing
  | cons call rest ih =>
    cases answered : host.failure? call with
    | some failure => rw [List.cons_append, made_failed answered, made_failed answered]
    | none =>
      rw [List.cons_append, made_answered answered, made_answered answered,
        ih fun later => failing ⟨answered, later⟩]

theorem answers_of_mem_made (made : call ∈ host.made (first ++ second)) (other : call ∉ first) :
    host.Answers first ∧ call ∈ second := by
  by_cases answers : host.Answers first
  · rw [made_append_of_answers answers] at made
    rcases List.mem_append.mp made with early | late
    · exact absurd early other
    · exact ⟨answers, (isPrefix_made _ _).subset late⟩
  · rw [made_append_of_not_answers answers] at made
    exact absurd ((isPrefix_made _ _).subset made) other

-- A call of a plan is made just if every call in front of it is answered.
theorem reaches_iff :
    first ++ [call] <+: host.made (first ++ call :: second) ↔ host.Answers first := by
  constructor
  · intro reached
    by_contra failing
    rw [made_append_of_not_answers failing] at reached
    have longer := (reached.trans (isPrefix_made host first)).length_le
    rw [List.length_append, List.length_singleton] at longer
    omega
  · intro answers
    rw [made_append_of_answers answers, List.prefix_append_right_inj]
    cases answered : (host.after first).failure? call with
    | some failure => exact (made_failed answered second).symm ▸ List.prefix_rfl
    | none =>
      rw [made_answered answered]
      exact List.prefix_append [call] _

end CodeHost

namespace Host

variable {repository token event : Text} {number : Int} {body : Option Text} {w after : World}

def openPlan (repository : Text) (number : Int) : List Call :=
  [.getRepository repository, .getPull number]

-- Where there is no commit there is no review to ask for.
def submitPlan (host : CodeHost) (body : Option Text) (event : Text) : List Call :=
  .getCommits :: host.commits.getLast?.toList.map fun commit => .createReview commit body event

theorem submitPlan_last {host : CodeHost} {commit : Text}
    (last : host.commits.getLast? = some commit) :
    submitPlan host body event = [.getCommits, .createReview commit body event] := by
  rw [submitPlan, last]
  rfl

theorem openPull_declined
    (declined : Repository.isValid repository = false ∨ token = []) (number : Int) (w : World) :
    ∃ cause, (openPull repository number token).on w = (.error (.refused cause), w) := by
  obtain ⟨outcome, after, ran, opening⟩ := openPull_on repository number token w
  rw [ran]
  have stays (valid : Repository.isValid repository = true) (given : token ≠ []) : False := by
    rcases declined with invalid | missing
    · cases valid.symm.trans invalid
    · exact given missing
  cases opening with
  | unnamed => exact ⟨_, rfl⟩
  | anonymous => exact ⟨_, rfl⟩
  | unmade valid given => exact (stays valid given).elim
  | noRepository admits | noPull admits | opened admits =>
    exact (stays admits.valid admits.given).elim

theorem openPull_unmade (valid : Repository.isValid repository = true) (given : token ≠ [])
    (unreached : ¬w.Reaches .codeHost token) (number : Int) :
    ∃ message, w.unmakeable .codeHost token = some message ∧
      (openPull repository number token).on w = (.error (.outside message), w) := by
  obtain ⟨another, message, why⟩ := (w.reaches_or .codeHost token).resolve_left unreached
  exact ⟨message, why, Opening.ran (.unmade valid given another why)⟩

theorem Opening.made {outcome : Except Fault PullRequest}
    (opening : Opening repository number token w outcome after)
    (admits : Admits repository token w) :
    after = (w.keepHost token).calling (w.host.made (openPlan repository number)) ∧
      (outcome.isOk = true ↔ w.host.Answers (openPlan repository number)) := by
  cases opening with
  | unnamed invalid => cases admits.valid.symm.trans invalid
  | anonymous _ missing => exact absurd missing admits.given
  | unmade _ _ another why =>
    exact (admits.reaches.elim another fun made => nomatch made.symm.trans why).elim
  | noRepository _ failed =>
    have first : w.host.failure? (.getRepository repository) = _ := failed
    refine ⟨by rw [openPlan, CodeHost.made_failed first], nofun, fun answers => ?_⟩
    cases answers.1.symm.trans failed
  | noPull _ found failed =>
    have first : w.host.failure? (.getRepository repository) = none := found
    refine ⟨by rw [openPlan, CodeHost.made_pair first], nofun, fun answers => ?_⟩
    cases answers.2.1.symm.trans failed
  | opened _ found answered =>
    have first : w.host.failure? (.getRepository repository) = none := found
    refine ⟨by rw [openPlan, CodeHost.made_pair first], fun _ => ?_, fun _ => rfl⟩
    exact ⟨found, answered, trivial⟩

theorem Posting.made {host : CodeHost} {outcome : Except Fault Int} {requests : List Call}
    (posting : Posting host body event outcome requests) :
    requests = host.made (submitPlan host body event) ∧
      ∀ id, outcome = .ok id ↔ host.Answers (submitPlan host body event) ∧ host.commits ≠ [] ∧
        host.next.reviewId = id := by
  cases posting with
  | noCommits failed =>
    have first : host.failure? .getCommits = _ := failed
    refine ⟨by rw [submitPlan, CodeHost.made_failed first], fun id => ⟨nofun, fun answers => ?_⟩⟩
    cases answers.1.1.symm.trans failed
  | noCommit answered missing =>
    refine ⟨?_, fun id => ⟨nofun, fun answers => ?_⟩⟩
    · rw [submitPlan, missing]
      exact (CodeHost.made_single _ _).symm
    · exact absurd (List.getLast?_eq_none_iff.mp missing) answers.2.1
  | declined answered last failed =>
    have first : host.failure? .getCommits = none := answered
    rw [submitPlan_last last]
    refine ⟨?_, fun id => ⟨nofun, fun answers => ?_⟩⟩
    · rw [CodeHost.made_pair first]
    · cases answers.1.2.1.symm.trans failed
  | @posted commit answered last accepted =>
    have first : host.failure? .getCommits = none := answered
    have commits : host.commits ≠ [] := fun missing => nomatch missing ▸ last
    rw [submitPlan_last last]
    refine ⟨?_, fun id => ⟨fun same => ?_, fun answers => congrArg _ answers.2.2⟩⟩
    · rw [CodeHost.made_pair first]
    · exact ⟨⟨answered, accepted, trivial⟩, commits, Except.ok.inj same⟩

-- A plan that stops in the opening stops there as a whole.
theorem Submitting.made {outcome : Except Fault Int}
    (submitting : Submitting repository number body event token w outcome after)
    (admits : Admits repository token w) :
    let plan := openPlan repository number ++ submitPlan w.host.next.next body event
    after.calls = (w.keepHost token).calls ++ w.host.made plan ∧
      ∀ id, outcome = .ok id ↔ w.host.Answers plan ∧ w.host.next.next.commits ≠ [] ∧
        w.host.next.next.next.reviewId = id := by
  cases submitting with
  | unopened opening =>
    obtain ⟨rfl, arrives⟩ := opening.made admits
    have failing : ¬w.host.Answers (openPlan repository number) :=
      fun answers => nomatch arrives.mpr answers
    refine ⟨?_, fun id => ⟨nofun, fun all => ?_⟩⟩
    · rw [CodeHost.made_append_of_not_answers failing]
      rfl
    · exact absurd (CodeHost.answers_append.mp all.1).1 failing
  | opened opening posting entries =>
    obtain ⟨rfl, arrives⟩ := opening.made admits
    have answers := arrives.mp rfl
    rw [CodeHost.made_of_answers answers, World.host_calling, World.host_keepHost] at posting
    obtain ⟨rfl, ids⟩ := posting.made
    constructor
    · rw [CodeHost.made_append_of_answers answers, CodeHost.made_of_answers answers,
        ← List.append_assoc]
      rfl
    · intro id
      rw [ids id, CodeHost.answers_append, and_iff_right answers]
      rfl

theorem knownEvent?_eq_some {given : Json} :
    knownEvent? given = some event ↔ event ∈ knownEvents ∧ given = .string event := by
  constructor
  · intro known
    unfold knownEvent? at known
    split at known
    · obtain ⟨listed, same⟩ := Option.ite_none_right_eq_some.mp known
      cases same
      exact ⟨listed, rfl⟩
    · cases known
  · intro known
    obtain ⟨listed, rfl⟩ := known
    exact if_pos listed

theorem post_unknown {submission : Submission}
    (unknown : ∀ event ∈ knownEvents, submission.event ≠ .string event) (w : World) :
    (post repository number submission token).on w =
      (.error (.refused (.reviewEvent submission.event)), w) := by
  have stranger : knownEvent? submission.event = none := by
    apply Option.eq_none_iff_forall_ne_some.mpr
    intro event known
    obtain ⟨listed, same⟩ := knownEvent?_eq_some.mp known
    exact unknown event listed same
  unfold post
  rw [stranger]
  rfl

-- Whatever the code host answers, a review is posted at most once, as submitted, and last of all.
-- Without a client for it nothing is asked.
theorem post_requests (repository : Text) (number : Int) (submission : Submission) (token : Text)
    (w : World) :
    ((∀ event ∈ knownEvents, submission.event ≠ .string event) ∨
        Repository.isValid repository = false ∨ token = [] →
      ∃ fault, fault.isValueFault = true ∧
        (post repository number submission token).on w = (.error fault, w)) ∧
    ∀ event ∈ knownEvents, submission.event = .string event →
      Repository.isValid repository = true → token ≠ [] →
      (¬w.Reaches .codeHost token → ∃ message, w.unmakeable .codeHost token = some message ∧
        (post repository number submission token).on w = (.error (.outside message), w)) ∧
      (w.Reaches .codeHost token →
      let asking : List Call := [.getRepository repository, .getPull number, .getCommits]
      let commits := w.host.next.next.commits
      let review := commits.getLast?.toList.map fun commit =>
        .createReview commit submission.body event
      ∃ outcome after requests, (post repository number submission token).on w = (outcome, after) ∧
        after.calls = w.calls ++ (if w.hostClient = some token then [] else [.hostClient token]) ++
          requests ∧
        requests <+: asking ++ review ∧
        (∀ first call rest, asking ++ review = first ++ call :: rest →
          (first ++ [call] <+: requests ↔ w.host.Answers first)) ∧
        requests.countP Call.isReview ≤ 1 ∧
        (∀ call ∈ requests, call.isReview = true → w.host.Answers asking ∧ call ∈ review) ∧
        ∀ id, outcome = .ok id ↔ w.host.Answers (asking ++ review) ∧ commits ≠ [] ∧
          w.host.next.next.next.reviewId = id) := by
  constructor
  · intro declined
    by_cases unknown : ∀ event ∈ knownEvents, submission.event ≠ .string event
    · exact ⟨_, rfl, post_unknown unknown w⟩
    · obtain ⟨cause, stopped⟩ :=
        openPull_declined (declined.resolve_left unknown) number w
      simp only [not_forall, not_not] at unknown
      obtain ⟨event, listed, same⟩ := unknown
      exact ⟨_, rfl, post_stopped stopped nofun (knownEvent?_eq_some.mpr ⟨listed, same⟩)⟩
  intro event listed given valid secret
  have known := knownEvent?_eq_some.mpr ⟨listed, given⟩
  constructor
  · intro unreached
    obtain ⟨message, why, stopped⟩ := openPull_unmade valid secret unreached number
    exact ⟨message, why, post_stopped stopped nofun known⟩
  · intro reaches asking commits review
    obtain ⟨outcome, after, entries, submitting, ran⟩ := post_on known repository number token w
    obtain ⟨calls, ids⟩ := submitting.made ⟨valid, secret, reaches⟩
    have single : review.length ≤ 1 := by
      rw [List.length_map]
      exact Option.length_toList_le
    refine ⟨_, _, w.host.made (asking ++ review), ran, ?_, CodeHost.isPrefix_made _ _, ?_, ?_, ?_,
      ?_⟩
    · rw [← World.calls_keepHost]
      exact calls
    · intro first call rest split
      rw [split]
      exact CodeHost.reaches_iff
    · refine (CodeHost.isPrefix_made _ _).sublist.countP_le.trans ?_
      rw [List.countP_append]
      exact (Nat.zero_add _).trans_le (List.countP_le_length.trans single)
    · intro call made isReview
      refine CodeHost.answers_of_mem_made made fun early => ?_
      simp only [asking, List.mem_cons, List.not_mem_nil, or_false] at early
      rcases early with rfl | rfl | rfl <;> cases isReview
    · intro id
      refine Iff.trans ?_ (ids id)
      cases outcome with
      | error fault => exact ⟨nofun, nofun⟩
      | ok posted => exact Iff.rfl

-- A host that answers everything and knows two commits.
def reviewableHost : CodeHost where
  pull number := { number := .int number }
  files := []
  commits := ["c1", "c2"]
  reviewId := 9
  failures _ := none

theorem post_requests_reviewable :
    ∃ after, (post "o/r" 7 { body := some "Fine." } "t").on { host := reviewableHost } =
        (.ok 9, after) ∧
      after.calls = [.hostClient "t", .getRepository "o/r", .getPull 7, .getCommits,
        .createReview "c2" (some "Fine.") "COMMENT"] := by
  have valid : Repository.isValid "o/r" = true := by decide +kernel
  have given : ("t" : Text) ≠ [] := nofun
  obtain ⟨outcome, after, requests, ran, calls, part, reached, -, -, ids⟩ :=
    ((post_requests "o/r" 7 { body := some "Fine." } "t" { host := reviewableHost }).2 "COMMENT"
      (by decide) rfl valid given).2 (.inr rfl)
  obtain rfl : outcome = .ok 9 := (ids 9).mpr ⟨⟨rfl, rfl, rfl, rfl, trivial⟩, nofun, rfl⟩
  -- The last of the four is reached, so all of them are.
  have all := (reached [.getRepository "o/r", .getPull 7, .getCommits]
    (.createReview "c2" (some "Fine.") "COMMENT") [] rfl).mpr ⟨rfl, rfl, rfl, trivial⟩
  obtain rfl := part.eq_of_length_le all.length_le
  exact ⟨after, ran, calls⟩

end Host
end PatchReview
