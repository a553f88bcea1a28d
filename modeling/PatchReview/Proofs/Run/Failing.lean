import PatchReview.Proofs.Run.Calls

-- The ways in which an action can fail.  Reporting takes the place of some faults, so an action
-- that fails only with those makes one that does not fail at all.
namespace PatchReview
namespace World

variable {w after last : World} {token message : Text}

-- The code host may have turned since, and clients can be made as before.
structure Onward (w after : World) : Prop where
  host : ∃ calls, after.host = w.host.after calls
  unmakeable : after.unmakeable = w.unmakeable

theorem Onward.refl (w : World) : Onward w w := ⟨⟨[], rfl⟩, rfl⟩

theorem Onward.trans (first : Onward w after) (second : Onward after last) : Onward w last := by
  obtain ⟨calls, turned⟩ := first.host
  obtain ⟨later, turnedAgain⟩ := second.host
  refine ⟨⟨calls ++ later, ?_⟩, second.unmakeable.trans first.unmakeable⟩
  rw [turnedAgain, turned, CodeHost.after_append]

-- What an operation with this token can break off with: no client can be made with it, or the code
-- host does not answer, now or once it was asked for something else.
inductive Breaks (w : World) (token message : Text) : Prop
  | client (why : w.unmakeable .codeHost token = some message)
  | request {calls : List Call} {endpoint : Endpoint}
      (lost : (w.host.after calls).failures endpoint = some (.broken message))

theorem Onward.breaks (onward : Onward w after) (breaks : after.Breaks token message) :
    w.Breaks token message := by
  cases breaks with
  | client why => exact .client (onward.unmakeable ▸ why)
  | request lost =>
    obtain ⟨calls, turned⟩ := onward.host
    rw [turned, ← CodeHost.after_append] at lost
    exact .request lost

-- The fault says that something outside broke off.
def Broken (w : World) (token : Text) (fault : Fault) : Prop :=
  ∃ message, fault = .outside message ∧ w.Breaks token message

end World

namespace Run

variable {α β : Type} {start : World} {kind other : Fault → Prop} {action : Run α}

-- In all worlds onward from this one, whatever ends the action early is of this kind.
def FailsWith (start : World) (kind : Fault → Prop) (action : Run α) : Prop :=
  ∀ w, start.Onward w → start.Onward (action.on w).2 ∧
    ∀ fault, (action.on w).1 = .error fault → kind fault

namespace FailsWith

theorem mono (wider : ∀ fault, kind fault → other fault) (fails : FailsWith start kind action) :
    FailsWith start other action := by
  intro w onward
  obtain ⟨still, fits⟩ := fails w onward
  exact ⟨still, fun fault ended => wider fault (fits fault ended)⟩

theorem pure (a : α) : FailsWith start kind (pure a : Run α) := fun _ onward => ⟨onward, nofun⟩

theorem throw {fault : Fault} (fits : kind fault) :
    FailsWith start kind (throw fault : Run α) := by
  refine fun w onward => ⟨onward, fun fault ended => ?_⟩
  cases ended
  exact fits

theorem refuse {cause : Refusal} (fits : kind (.refused cause)) :
    FailsWith start kind (refuse cause : Run α) := throw fits

theorem log (level : Level) (topic : Topic) (message : Text) :
    FailsWith start kind (log level topic message) :=
  fun _ onward => ⟨⟨onward.host, onward.unmakeable⟩, nofun⟩

theorem bind {next : α → Run β} (first : FailsWith start kind action)
    (rest : ∀ a, FailsWith start kind (next a)) : FailsWith start kind (action >>= next) := by
  intro w onward
  obtain ⟨still, fits⟩ := first w onward
  rw [on_bind]
  rcases ended : action.on w with ⟨early | a, middle⟩ <;> rw [ended] at still fits
  · refine ⟨still, fun fault same => ?_⟩
    cases same
    exact fits early rfl
  · exact rest a middle still

theorem tryCatch {handler : Fault → Run α} (first : FailsWith start other action)
    (rest : ∀ fault, other fault → FailsWith start kind (handler fault)) :
    FailsWith start kind (tryCatch action handler) := by
  intro w onward
  obtain ⟨still, fits⟩ := first w onward
  rw [on_tryCatch]
  rcases ended : action.on w with ⟨early | a, middle⟩ <;> rw [ended] at still fits
  · exact rest early (fits early rfl) middle still
  · exact ⟨still, nofun⟩

-- What can be reported is reported.
theorem refusable (fails : FailsWith start kind action) :
    FailsWith start (fun fault => kind fault ∧ fault.isValueFault = false) (refusable action) := by
  intro w onward
  obtain ⟨still, fits⟩ := fails w onward
  rw [on_refusable]
  rcases ended : action.on w with ⟨early | a, middle⟩ <;> rw [ended] at still fits
  · refine ⟨still, fun fault same => ?_⟩
    dsimp only at same
    by_cases value : early.isValueFault = true
    · rw [if_pos value] at same
      cases same
    · rw [if_neg value] at same
      cases same
      exact ⟨fits early rfl, by simpa using value⟩
  · exact ⟨still, nofun⟩

-- From where it starts.
theorem now {fault : Fault} {after : World} (fails : FailsWith start kind action)
    (ended : action.on start = (.error fault, after)) : kind fault :=
  (fails start (.refl start)).2 fault (congrArg Prod.fst ended)

end FailsWith
end Run
end PatchReview
