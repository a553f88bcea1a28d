import Mathlib.Data.List.Forall2
import Mathlib.Order.Defs.Unbundled
import PatchReview.World

-- How a run goes: what an action comes to, and the world that it leaves.  Actions are put together
-- from smaller ones, and what holds of the parts is carried to the whole in two ways: as a preorder
-- on worlds that every step follows (`Moves`), and as what an action gives that never fails
-- (`Gives`).
namespace PatchReview

-- Of two lists that match, each has a partner in the other for all that it holds.
theorem forall₂_partners {α β : Type} {R : α → β → Prop} {items : List α} {given : List β}
    (matched : List.Forall₂ R items given) :
    (∀ item ∈ items, ∃ b ∈ given, R item b) ∧ ∀ b ∈ given, ∃ item ∈ items, R item b := by
  induction matched with
  | nil => exact ⟨nofun, nofun⟩
  | cons first _ ih =>
    refine ⟨List.forall_mem_cons.mpr ⟨⟨_, List.mem_cons_self, first⟩, fun item member => ?_⟩,
      List.forall_mem_cons.mpr ⟨⟨_, List.mem_cons_self, first⟩, fun b member => ?_⟩⟩
    · obtain ⟨b, among, fits⟩ := ih.1 item member
      exact ⟨b, List.mem_cons_of_mem _ among, fits⟩
    · obtain ⟨item, among, fits⟩ := ih.2 b member
      exact ⟨item, List.mem_cons_of_mem _ among, fits⟩

namespace Run

variable {α β : Type}

def on (action : Run α) (w : World) : Except Fault α × World := action.run.run w

@[simp] theorem on_pure (a : α) (w : World) : (pure a : Run α).on w = (.ok a, w) := rfl

@[simp] theorem on_refuse (cause : Refusal) (w : World) :
    (refuse cause : Run α).on w = (.error (.refused cause), w) := rfl

@[simp] theorem on_get (w : World) : (get : Run World).on w = (.ok w, w) := rfl

@[simp] theorem on_modify (f : World → World) (w : World) :
    (modify f : Run Unit).on w = (.ok (), f w) := rfl

@[simp] theorem on_record (call : Call) (w : World) :
    (record call).on w = (.ok (), { w with calls := w.calls ++ [call] }) := rfl

@[simp] theorem on_log (level : Level) (topic : Topic) (message : Text) (w : World) :
    (log level topic message).on w =
      (.ok (), { w with log := w.log ++ [⟨level, topic, message⟩] }) := rfl

@[simp] theorem on_ofExcept (outcome : Except Fault α) (w : World) :
    (MonadExcept.ofExcept outcome : Run α).on w = (outcome, w) := by
  cases outcome <;> rfl

theorem on_bind (action : Run α) (next : α → Run β) (w : World) :
    (action >>= next).on w =
      match action.on w with
      | (.ok a, after) => (next a).on after
      | (.error fault, after) => (.error fault, after) := by
  change (ExceptT.bindCont next (action.on w).1).run (action.on w).2 = _
  rcases action.on w with ⟨fault | a, after⟩ <;> rfl

theorem on_map (f : α → β) (action : Run α) (w : World) :
    (f <$> action).on w = ((action.on w).1.map f, (action.on w).2) := by
  rw [map_eq_pure_bind, on_bind]
  rcases action.on w with ⟨fault | a, after⟩ <;> rfl

theorem on_tryCatch (action : Run α) (handler : Fault → Run α) (w : World) :
    (tryCatch action handler).on w =
      match action.on w with
      | (.ok a, after) => (.ok a, after)
      | (.error fault, after) => (handler fault).on after := by
  unfold on ExceptT.run StateT.run
  simp only [tryCatch, tryCatchThe, MonadExceptOf.tryCatch, ExceptT.tryCatch, ExceptT.mk, bind,
    StateT.bind]
  rcases action w with ⟨fault | a, after⟩ <;> rfl

theorem on_refusable (action : Run α) (w : World) :
    (refusable action).on w =
      match action.on w with
      | (.ok a, after) => (.ok (.ok a), after)
      | (.error fault, after) =>
        (if fault.isValueFault then .ok (.error fault.message) else .error fault, after) := by
  unfold refusable
  rw [on_tryCatch, on_map]
  rcases action.on w with ⟨fault | a, after⟩
  · dsimp only [Except.map]
    split <;> rfl
  · rfl

-- A relation of worlds that does not look at their logs.
def LogBlind (R : World → World → Prop) : Prop :=
  ∀ w after before later, R { w with log := before } after → R w { after with log := later }

-- What an action does to the world, however it ends.
def Moves (R : World → World → Prop) (action : Run α) : Prop := ∀ w, R w (action.on w).2

namespace Moves

variable {R : World → World → Prop}

theorem bind [IsPreorder World R] {action : Run α} {next : α → Run β} (first : Moves R action)
    (rest : ∀ a, Moves R (next a)) : Moves R (action >>= next) := by
  intro w
  have moved := first w
  rw [on_bind]
  rcases ended : action.on w with ⟨fault | a, after⟩
  · rw [ended] at moved
    exact moved
  · rw [ended] at moved
    exact trans_of R moved (rest a after)

theorem pure [IsPreorder World R] (a : α) : Moves R (pure a : Run α) := refl_of R

theorem throw [IsPreorder World R] (fault : Fault) : Moves R (throw fault : Run α) := refl_of R

theorem refuse [IsPreorder World R] (cause : Refusal) : Moves R (refuse cause : Run α) := refl_of R

theorem get [IsPreorder World R] : Moves R (get : Run World) := refl_of R

theorem log [IsPreorder World R] (blind : LogBlind R) (level : Level) (topic : Topic)
    (message : Text) : Moves R (log level topic message) :=
  fun w => blind w w w.log _ (refl_of R w)

theorem map {action : Run α} (f : α → β) (moves : Moves R action) : Moves R (f <$> action) := by
  intro w
  rw [on_map]
  exact moves w

theorem tryCatch [IsPreorder World R] {action : Run α} {handler : Fault → Run α}
    (first : Moves R action) (rest : ∀ fault, Moves R (handler fault)) :
    Moves R (tryCatch action handler) := by
  intro w
  have moved := first w
  rw [on_tryCatch]
  rcases ended : action.on w with ⟨fault | a, after⟩
  · rw [ended] at moved
    exact trans_of R moved (rest fault after)
  · rw [ended] at moved
    exact moved

theorem refusable [IsPreorder World R] {action : Run α} (moves : Moves R action) :
    Moves R (refusable action) := by
  refine tryCatch (moves.map _) fun fault => ?_
  split
  · exact pure _
  · exact throw _

theorem mapM [IsPreorder World R] {f : α → Run β} (each : ∀ a, Moves R (f a)) (items : List α) :
    Moves R (items.mapM f) := by
  induction items with
  | nil => exact pure []
  | cons item rest ih =>
    rw [List.mapM_cons]
    exact bind (each item) fun _ => bind ih fun _ => pure _

end Moves

-- The action does not fail, and what it gives fits the worlds before and after.
def Gives (P : World → α → World → Prop) (action : Run α) : Prop :=
  ∀ w, ∃ a after, action.on w = (.ok a, after) ∧ P w a after

namespace Gives

variable {R : World → World → Prop}

theorem mapM [IsPreorder World R] {f : α → Run β} {S : α → β → Prop}
    (each : ∀ a, Gives (fun w b after => S a b ∧ R w after) (f a)) (items : List α) :
    Gives (fun w given after => List.Forall₂ S items given ∧ R w after) (items.mapM f) := by
  induction items with
  | nil => exact fun w => ⟨[], w, rfl, .nil, refl_of R w⟩
  | cons item rest ih =>
    intro w
    obtain ⟨b, middle, ran, fits, moved⟩ := each item w
    obtain ⟨given, after, ranRest, fitRest, movedRest⟩ := ih middle
    refine ⟨b :: given, after, ?_, .cons fits fitRest, trans_of R moved movedRest⟩
    rw [List.mapM_cons, on_bind, ran]
    dsimp only
    rw [on_bind, ranRest]
    rfl

end Gives

end Run
end PatchReview
