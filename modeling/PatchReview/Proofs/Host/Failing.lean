import PatchReview.Proofs.Host.Posting
import PatchReview.Proofs.Run.Failing

-- What can go wrong with the code host.  A fetch fails with a refusal or an invalid answer, or
-- because something outside broke off; a post can also fail in two ways that are not reported.
namespace PatchReview
namespace Host

open Run (FailsWith)

variable {α : Type} {repository token : Text} {start : World}

-- The service said no, or the program did, or there was no answer.
inductive Declined (start : World) (token : Text) (fault : Fault) : Prop
  | refused (value : fault.isValueFault = true)
  | answered {status : Int} {data : Json} (same : fault = .service status data)
  | broken (broken : start.Broken token fault)

-- A post that ends in this way is not reported.
def Unreported (fault : Fault) : Prop := fault = .noCommit ∨ fault = .wrongKind

theorem declined_of_failure {w : World} (onward : start.Onward w) (calls : List Call)
    {endpoint : Endpoint} {failure : HostFailure}
    (failed : (w.host.after calls).failures endpoint = some failure) :
    Declined start token failure.fault := by
  cases failure with
  | status code data => exact .answered rfl
  | broken message => exact .broken ⟨message, rfl, onward.breaks (.request failed)⟩

theorem openPull_fails (start : World) (repository : Text) (number : Int) (token : Text) :
    FailsWith start (Declined start token) (openPull repository number token) := by
  intro w onward
  obtain ⟨outcome, after, ran, opening⟩ := openPull_on repository number token w
  rw [ran]
  have host : ∃ calls, after.host = w.host.after calls := by
    obtain ⟨calls, -, turned, -⟩ := opening.adds
    exact ⟨calls, turned⟩
  refine ⟨onward.trans ⟨host, opening.unmakeable⟩, fun fault ended => ?_⟩
  cases ended
  cases opening with
  | unnamed | anonymous => exact .refused rfl
  | unmade valid given another why => exact .broken ⟨_, rfl, onward.breaks (.client why)⟩
  | noRepository admits failed => exact declined_of_failure onward [] failed
  | noPull admits found failed =>
    exact declined_of_failure onward [.getRepository repository] failed

theorem request_fails {endpoint : Endpoint} {call : Call} (asks : call.isRequest = true) :
    FailsWith start (Declined start token) (request endpoint call) := by
  intro w onward
  have still : start.Onward (w.calling [call]) := onward.trans ⟨⟨[call], rfl⟩, rfl⟩
  cases failed : w.host.failures endpoint with
  | some failure =>
    rw [request_failed asks failed]
    refine ⟨still, fun fault ended => ?_⟩
    cases ended
    exact declined_of_failure onward [] failed
  | none =>
    rw [request_answered asks failed]
    exact ⟨still, nofun⟩

-- Once the service's own failures are explained, the refusals are left, and what is neither.
theorem explaining_fails {kind : Fault → Prop} {explain : Int → Json → Run α} {action : Run α}
    (declines : FailsWith start (fun fault => Declined start token fault ∨ kind fault) action)
    (explained : ∀ status data,
      FailsWith start (fun fault => fault.isValueFault = true ∨ kind fault) (explain status data)) :
    FailsWith start
      (fun fault => fault.isValueFault = true ∨ start.Broken token fault ∨ kind fault)
      (explaining explain action) := by
  unfold explaining
  refine declines.tryCatch fun fault declined => ?_
  split
  · exact (explained _ _).mono fun fault told => told.imp_right .inr
  · rename_i other
    rcases declined with (value | same | broken) | fits
    · exact .throw (.inl value)
    · exact absurd same (other _ _)
    · exact .throw (.inr (.inl broken))
    · exact .throw (.inr (.inr fits))

theorem fetching_fails {cause : Text → Refusal} {number : Int} {action : Run α}
    (declines : FailsWith start (Declined start token) action) :
    FailsWith start (fun fault => fault.isValueFault = true ∨ start.Broken token fault)
      (explaining (fetchFailure repository number cause) action) := by
  have told (status : Int) (data : Json) :
      FailsWith start (fun fault => fault.isValueFault = true ∨ False)
        (fetchFailure repository number cause status data : Run α) := by
    unfold fetchFailure
    split <;> exact .refuse (.inl rfl)
  have explained := explaining_fails (declines.mono fun fault declined => .inl declined) told
  exact explained.mono fun fault ends => ends.imp_right (·.resolve_right id)

theorem fetchPull_fails (start : World) (repository : Text) (number : Int) (token : Text) :
    FailsWith start (fun fault => fault.isValueFault = true ∨ start.Broken token fault)
      (fetchPull repository number token) :=
  fetching_fails (openPull_fails start repository number token)

theorem fetchFiles_fails (start : World) (repository : Text) (number : Int) (token : Text) :
    FailsWith start (fun fault => fault.isValueFault = true ∨ start.Broken token fault)
      (fetchFiles repository number token) := by
  apply fetching_fails
  refine (openPull_fails start repository number token).bind fun _ => ?_
  refine (request_fails rfl).bind fun host => ?_
  unfold checkFiles
  split
  · exact .pure _
  · exact .throw (.refused rfl)

theorem submit_fails (start : World) (repository : Text) (number : Int) (body : Option Text)
    (event token : Text) :
    FailsWith start (fun fault => Declined start token fault ∨ Unreported fault)
      (submit repository number body event token) := by
  have declining {β : Type} {action : Run β}
      (declines : FailsWith start (Declined start token) action) :=
    declines.mono fun fault declined =>
      (.inl declined : Declined start token fault ∨ Unreported fault)
  refine (declining (openPull_fails start repository number token)).bind fun _ => ?_
  refine (declining (request_fails rfl)).bind fun host => ?_
  split
  · exact .throw (.inr (.inl rfl))
  · refine (declining (request_fails rfl)).bind fun host => ?_
    exact (FailsWith.log _ _ _).bind fun _ => .pure _

theorem failureFault_told (status : Int) (data : Json) :
    (failureFault status data).isValueFault = true ∨ Unreported (failureFault status data) := by
  unfold failureFault failureDetails
  split
  · exact .inl rfl
  · rename_i fault unlisted
    split at unlisted <;> cases unlisted
    exact .inr (.inr rfl)

theorem post_fails (start : World) (repository : Text) (number : Int) (submission : Submission)
    (token : Text) :
    FailsWith start
      (fun fault => fault.isValueFault = true ∨ start.Broken token fault ∨ Unreported fault)
      (post repository number submission token) := by
  unfold post
  split
  · refine explaining_fails (submit_fails _ _ _ _ _ _) fun status data w onward => ?_
    obtain ⟨entries, told⟩ := postFailure_on status data w
    rw [told]
    refine ⟨⟨onward.host, onward.unmakeable⟩, fun fault ended => ?_⟩
    cases ended
    exact failureFault_told status data
  · exact .refuse (.inl rfl)

end Host
end PatchReview
