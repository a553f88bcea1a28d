import PatchReview.Proofs.Host.Opening

-- The two fetches.  Both begin by opening the pull request, and a failure of the service is told as
-- a refusal.  What they come to is decided by the code host and the client for it: the log, the
-- files and the replies of the language model make no difference.
namespace PatchReview
namespace Host

variable {α β : Type} {repository token : Text} {number : Int}

theorem explaining_on (explain : Int → Json → Run α) (action : Run α) (w : World) :
    (explaining explain action).on w =
      match action.on w with
      | (.error (.service status data), after) => (explain status data).on after
      | ended => ended := by
  unfold explaining
  rw [Run.on_tryCatch]
  rcases action.on w with ⟨fault | a, after⟩
  · cases fault <;> rfl
  · rfl

section
variable {R : World → World → Prop} [IsPreorder World R]

omit [IsPreorder World R] in
theorem request_moves {endpoint : Endpoint} {call : Call} (asks : call.isRequest = true)
    (moves : ∀ w : World, R w (w.calling [call])) : Run.Moves R (request endpoint call) := by
  intro w
  cases failed : w.host.failures endpoint with
  | some failure =>
    rw [request_failed asks failed]
    exact moves w
  | none =>
    rw [request_answered asks failed]
    exact moves w

theorem explaining_moves {explain : Int → Json → Run α} {action : Run α}
    (first : Run.Moves R action) (rest : ∀ status data, Run.Moves R (explain status data)) :
    Run.Moves R (explaining explain action) := by
  refine first.tryCatch fun fault => ?_
  split
  · exact rest _ _
  · exact Run.Moves.throw _

theorem fetchFailure_moves (cause : Text → Refusal) (status : Int) (data : Json) :
    Run.Moves R (fetchFailure repository number cause status data : Run α) := by
  unfold fetchFailure
  split <;> exact Run.Moves.refuse _

theorem fetchPull_moves (opens : Run.Moves R (openPull repository number token)) :
    Run.Moves R (fetchPull repository number token) :=
  explaining_moves opens fun _ _ => fetchFailure_moves _ _ _

theorem fetchFiles_moves (opens : Run.Moves R (openPull repository number token))
    (moves : ∀ w : World, R w (w.calling [.getFiles])) :
    Run.Moves R (fetchFiles repository number token) := by
  refine explaining_moves (opens.bind fun _ => ?_) fun _ _ => fetchFailure_moves _ _ _
  refine (request_moves rfl moves).bind fun host => ?_
  unfold checkFiles
  split
  · exact Run.Moves.pure _
  · exact Run.Moves.throw _

end

-- Where the code host is reached in the same way the action comes to one outcome, and leaves worlds
-- where it is reached in the same way.
def HostOnly (action : Run α) : Prop :=
  ∀ w v : World, w.SameHost v → ∃ outcome after later,
    action.on w = (outcome, after) ∧ action.on v = (outcome, later) ∧ after.SameHost later

namespace HostOnly

theorem pure (a : α) : HostOnly (pure a : Run α) := fun w v same => ⟨_, w, v, rfl, rfl, same⟩

theorem throw (fault : Fault) : HostOnly (throw fault : Run α) :=
  fun w v same => ⟨_, w, v, rfl, rfl, same⟩

theorem bind {action : Run α} {next : α → Run β} (first : HostOnly action)
    (rest : ∀ a, HostOnly (next a)) : HostOnly (action >>= next) := by
  intro w v same
  obtain ⟨outcome, after, later, ran, ranThere, still⟩ := first w v same
  rw [Run.on_bind, Run.on_bind, ran, ranThere]
  cases outcome with
  | error fault => exact ⟨_, after, later, rfl, rfl, still⟩
  | ok a => exact rest a after later still

theorem tryCatch {action : Run α} {handler : Fault → Run α} (first : HostOnly action)
    (rest : ∀ fault, HostOnly (handler fault)) : HostOnly (tryCatch action handler) := by
  intro w v same
  obtain ⟨outcome, after, later, ran, ranThere, still⟩ := first w v same
  rw [Run.on_tryCatch, Run.on_tryCatch, ran, ranThere]
  cases outcome with
  | ok a => exact ⟨_, after, later, rfl, rfl, still⟩
  | error fault => exact rest fault after later still

theorem request {endpoint : Endpoint} {call : Call} (asks : call.isRequest = true) :
    HostOnly (request endpoint call) := by
  intro w v same
  have turned : (w.calling [call]).SameHost (v.calling [call]) :=
    ⟨congrArg (CodeHost.after · [call]) same.host, same.client, same.unmakeable⟩
  cases failed : w.host.failures endpoint with
  | some failure =>
    refine ⟨_, _, _, request_failed asks failed, request_failed asks ?_, turned⟩
    rwa [← same.host]
  | none =>
    refine ⟨.ok w.host, _, v.calling [call], request_answered asks failed, ?_, turned⟩
    rw [request_answered asks (same.host ▸ failed), same.host]

theorem openPull (repository : Text) (number : Int) (token : Text) :
    HostOnly (openPull repository number token) := by
  intro w v same
  obtain ⟨outcome, after, ran, opening⟩ := openPull_on repository number token w
  obtain ⟨later, there, still⟩ := opening.same_end same
  exact ⟨outcome, after, later, ran, there.ran, still⟩

theorem explaining {cause : Text → Refusal} {action : Run α} (first : HostOnly action) :
    HostOnly (explaining (fetchFailure repository number cause) action) := by
  refine first.tryCatch fun fault => ?_
  split
  · unfold fetchFailure
    split <;> exact throw _
  · exact throw _

theorem fetchPull (repository : Text) (number : Int) (token : Text) :
    HostOnly (fetchPull repository number token) := (openPull repository number token).explaining

theorem fetchFiles (repository : Text) (number : Int) (token : Text) :
    HostOnly (fetchFiles repository number token) := by
  refine ((openPull repository number token).bind fun _ => ?_).explaining
  refine (request rfl).bind fun host => ?_
  unfold checkFiles
  split
  · exact pure _
  · exact throw _

end HostOnly
end Host
end PatchReview
