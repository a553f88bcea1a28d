import PatchReview.Host
import PatchReview.Proofs.Run.Calls

-- Opening a pull request, and the two fetches that begin with it.  Every way in which it can go is
-- one case of `Opening`; how it ends is decided by what is asked and by the code host alone.
namespace PatchReview

namespace World

-- A client is kept for the token; it is made if there was none.
def keepHost (token : Text) (w : World) : World :=
  if w.hostClient = some token then w
  else { w with calls := w.calls ++ [.hostClient token], hostClient := some token }

def calling (calls : List Call) (w : World) : World :=
  { w with calls := w.calls ++ calls, host := w.host.after calls }

variable {token : Text} {w : World}

@[simp] theorem host_keepHost : (w.keepHost token).host = w.host := by
  unfold keepHost
  split <;> rfl

@[simp] theorem hostClient_keepHost : (w.keepHost token).hostClient = some token := by
  unfold keepHost
  split
  · assumption
  · rfl

@[simp] theorem unmakeable_keepHost : (w.keepHost token).unmakeable = w.unmakeable := by
  unfold keepHost
  split <;> rfl

theorem calls_keepHost :
    (w.keepHost token).calls =
      w.calls ++ if w.hostClient = some token then [] else [.hostClient token] := by
  unfold keepHost
  split
  · simp
  · rfl

@[simp] theorem host_calling (calls : List Call) :
    (w.calling calls).host = w.host.after calls := rfl

theorem calling_calling (first second : List Call) :
    (w.calling first).calling second = w.calling (first ++ second) := by
  unfold calling
  rw [List.append_assoc, CodeHost.after_append]

end World

theorem Adds.keepHost (token : Text) (w : World) : Adds Call.isFetching w (w.keepHost token) := by
  refine ⟨_, World.calls_keepHost, ?_, ?_⟩
  · rw [World.host_keepHost]
    split <;> rfl
  · intro call member
    split at member
    · cases member
    · cases List.mem_singleton.mp member
      rfl

theorem Adds.calling {kind : Call → Bool} {calls : List Call}
    (fits : ∀ call ∈ calls, kind call = true) (w : World) : Adds kind w (w.calling calls) :=
  ⟨calls, rfl, rfl, fits⟩

namespace Host

variable {repository token : Text} {number : Int} {w v after later : World}

theorem client_on (given : token ≠ []) (reaches : w.Reaches .codeHost token) :
    (client token).on w = (.ok (), w.keepHost token) := by
  unfold client World.keepHost
  rw [if_neg (by simpa using given), Run.on_bind, Run.on_get]
  dsimp only
  split
  · rfl
  · rename_i another
    rw [Run.on_bind, Run.on_get]
    dsimp only
    rw [reaches.resolve_left another]
    rfl

theorem client_unmade {message : Text} (given : token ≠ []) (another : w.hostClient ≠ some token)
    (why : w.unmakeable .codeHost token = some message) :
    (client token).on w = (.error (.outside message), w) := by
  unfold client
  rw [if_neg (by simpa using given), Run.on_bind, Run.on_get]
  dsimp only
  rw [if_neg another, Run.on_bind, Run.on_get]
  dsimp only
  rw [why]
  rfl

theorem request_failed {endpoint : Endpoint} {failure : HostFailure} {call : Call}
    (asks : call.isRequest = true) (failed : w.host.failures endpoint = some failure) :
    (request endpoint call).on w = (.error failure.fault, w.calling [call]) := by
  unfold request World.calling CodeHost.after
  rw [Run.on_bind, Run.on_record]
  dsimp only
  rw [Run.on_bind, Run.on_get]
  dsimp only
  rw [Run.on_bind, Run.on_modify, failed, List.foldl_cons, if_pos asks]
  rfl

theorem request_answered {endpoint : Endpoint} {call : Call} (asks : call.isRequest = true)
    (answered : w.host.failures endpoint = none) :
    (request endpoint call).on w = (.ok w.host, w.calling [call]) := by
  unfold request World.calling CodeHost.after
  rw [Run.on_bind, Run.on_record]
  dsimp only
  rw [Run.on_bind, Run.on_get]
  dsimp only
  rw [Run.on_bind, Run.on_modify, answered, List.foldl_cons, if_pos asks]
  rfl

-- Nothing is asked of the code host without a name, a token and a client.
structure Admits (repository token : Text) (w : World) : Prop where
  valid : Repository.isValid repository = true
  given : token ≠ []
  reaches : w.Reaches .codeHost token

inductive Opening (repository : Text) (number : Int) (token : Text) (w : World) :
    Except Fault PullRequest → World → Prop
  | unnamed (invalid : Repository.isValid repository = false) :
    Opening repository number token w (.error (.refused (.repository (.string repository)))) w
  | anonymous (valid : Repository.isValid repository = true) (missing : token = []) :
    Opening repository number token w (.error (.refused .noClientToken)) w
  | unmade {message : Text} (valid : Repository.isValid repository = true) (given : token ≠ [])
      (another : w.hostClient ≠ some token)
      (why : w.unmakeable .codeHost token = some message) :
    Opening repository number token w (.error (.outside message)) w
  | noRepository {failure : HostFailure} (admits : Admits repository token w)
      (failed : w.host.failures .repository = some failure) :
    Opening repository number token w (.error failure.fault)
      ((w.keepHost token).calling [.getRepository repository])
  | noPull {failure : HostFailure} (admits : Admits repository token w)
      (found : w.host.failures .repository = none)
      (failed : w.host.next.failures .pull = some failure) :
    Opening repository number token w (.error failure.fault)
      ((w.keepHost token).calling [.getRepository repository, .getPull number])
  | opened (admits : Admits repository token w) (found : w.host.failures .repository = none)
      (answered : w.host.next.failures .pull = none) :
    Opening repository number token w (.ok (w.host.next.pull number))
      ((w.keepHost token).calling [.getRepository repository, .getPull number])

theorem Opening.ran {outcome : Except Fault PullRequest}
    (opening : Opening repository number token w outcome after) :
    (openPull repository number token).on w = (outcome, after) := by
  unfold openPull Repository.validate
  have turned : ((w.keepHost token).calling [.getRepository repository]).host = w.host.next :=
    congrArg CodeHost.next World.host_keepHost
  cases opening with
  | unnamed invalid => rw [if_neg (by simp [invalid]), Run.on_bind, Run.on_refuse]
  | anonymous valid missing =>
    rw [if_pos valid, Run.on_bind, Run.on_pure, missing]
    rfl
  | unmade valid given another why =>
    rw [if_pos valid, Run.on_bind, Run.on_pure]
    dsimp only
    rw [Run.on_bind, client_unmade given another why]
  | noRepository admits failed =>
    rw [if_pos admits.valid, Run.on_bind, Run.on_pure]
    dsimp only
    rw [Run.on_bind, client_on admits.given admits.reaches]
    dsimp only
    rw [Run.on_bind, request_failed rfl (by rwa [World.host_keepHost])]
  | noPull admits found failed =>
    rw [if_pos admits.valid, Run.on_bind, Run.on_pure]
    dsimp only
    rw [Run.on_bind, client_on admits.given admits.reaches]
    dsimp only
    rw [Run.on_bind, request_answered rfl (by rwa [World.host_keepHost])]
    dsimp only
    rw [Run.on_bind, request_failed rfl (by rwa [turned]), World.calling_calling]
    rfl
  | opened admits found answered =>
    rw [if_pos admits.valid, Run.on_bind, Run.on_pure]
    dsimp only
    rw [Run.on_bind, client_on admits.given admits.reaches]
    dsimp only
    rw [Run.on_bind, request_answered rfl (by rwa [World.host_keepHost])]
    dsimp only
    rw [Run.on_bind, request_answered rfl (by rwa [turned]), turned, World.calling_calling]
    rfl

theorem exists_opening (repository : Text) (number : Int) (token : Text) (w : World) :
    ∃ outcome after, Opening repository number token w outcome after := by
  by_cases valid : Repository.isValid repository = true
  · by_cases given : token = []
    · exact ⟨_, _, .anonymous valid given⟩
    rcases w.reaches_or .codeHost token with reaches | ⟨another, message, why⟩
    · have admits : Admits repository token w := ⟨valid, given, reaches⟩
      cases found : w.host.failures .repository with
      | some failure => exact ⟨_, _, .noRepository admits found⟩
      | none =>
        cases answered : w.host.next.failures .pull with
        | some failure => exact ⟨_, _, .noPull admits found answered⟩
        | none => exact ⟨_, _, .opened admits found answered⟩
    · exact ⟨_, _, .unmade valid given another why⟩
  · exact ⟨_, _, .unnamed (by simpa using valid)⟩

theorem openPull_on (repository : Text) (number : Int) (token : Text) (w : World) :
    ∃ outcome after, (openPull repository number token).on w = (outcome, after) ∧
      Opening repository number token w outcome after := by
  obtain ⟨outcome, after, opening⟩ := exists_opening repository number token w
  exact ⟨outcome, after, opening.ran, opening⟩

theorem sameHost_opened (token : Text) (same : w.SameHost v) (calls : List Call) :
    ((w.keepHost token).calling calls).SameHost ((v.keepHost token).calling calls) := by
  refine ⟨?_, ?_, ?_⟩
  · rw [World.host_calling, World.host_calling, World.host_keepHost, World.host_keepHost, same.host]
  · exact World.hostClient_keepHost.trans World.hostClient_keepHost.symm
  · exact World.unmakeable_keepHost.trans (same.unmakeable.trans World.unmakeable_keepHost.symm)

theorem Admits.same (same : w.SameHost v) (admits : Admits repository token w) :
    Admits repository token v := ⟨admits.valid, admits.given, same.reaches admits.reaches⟩

-- Where the code host is reached in the same way, the opening goes in the same way.
theorem Opening.same_end {outcome : Except Fault PullRequest}
    (opening : Opening repository number token w outcome after) (same : w.SameHost v) :
    ∃ later, Opening repository number token v outcome later ∧ after.SameHost later := by
  have both (calls : List Call) := sameHost_opened token same calls
  cases opening with
  | unnamed invalid => exact ⟨v, .unnamed invalid, same⟩
  | anonymous valid missing => exact ⟨v, .anonymous valid missing, same⟩
  | unmade valid given another why =>
    exact ⟨v, .unmade valid given (same.client ▸ another) (same.unmakeable ▸ why), same⟩
  | noRepository admits failed =>
    exact ⟨_, .noRepository (admits.same same) (same.host ▸ failed), both _⟩
  | noPull admits found failed =>
    exact ⟨_, .noPull (admits.same same) (same.host ▸ found) (same.host ▸ failed), both _⟩
  | opened admits found answered =>
    refine ⟨_, ?_, both _⟩
    rw [same.host]
    exact .opened (admits.same same) (same.host ▸ found) (same.host ▸ answered)

theorem Opening.unmakeable {outcome : Except Fault PullRequest}
    (opening : Opening repository number token w outcome after) :
    after.unmakeable = w.unmakeable := by
  cases opening with
  | unnamed | anonymous | unmade => rfl
  | noRepository | noPull | opened => exact World.unmakeable_keepHost

theorem Opening.adds {outcome : Except Fault PullRequest}
    (opening : Opening repository number token w outcome after) : Adds Call.isFetching w after := by
  cases opening with
  | unnamed | anonymous | unmade => exact Adds.refl w
  | noRepository => exact (Adds.keepHost token w).trans (Adds.calling (by simp [Call.isFetching]) _)
  | noPull | opened =>
    exact (Adds.keepHost token w).trans (Adds.calling (by simp [Call.isFetching]) _)

end Host
end PatchReview
