import PatchReview.Proofs.Run.Course

-- Actions that only look at the files.  How such an action ends depends on the files alone, and it
-- leaves the world as it was, apart from the log.
namespace PatchReview
namespace Run

variable {α β : Type}

def Looks (P : FileTree → Except Fault α → Prop) (action : Run α) : Prop :=
  ∀ w, ∃ outcome entries, action.on w = (outcome, { w with log := entries }) ∧ P w.files outcome

-- How the same action on each of some items can end: the first failure is the last.
inductive OnEach (P : α → Except Fault β → Prop) (items : List α) : Except Fault (List β) → Prop
  | stopped {item : α} {fault : Fault} (member : item ∈ items) (ended : P item (.error fault)) :
    OnEach P items (.error fault)
  | all {given : List β} (matched : List.Forall₂ (fun item b => P item (.ok b)) items given) :
    OnEach P items (.ok given)

-- An action that is refused where something is wrong, and elsewhere gives a known value.
inductive Decided (wrong : Prop) (value : α) : Except Fault α → Prop
  | refused (cause : Refusal) (fails : wrong) : Decided wrong value (.error (.refused cause))
  | answered (fine : ¬wrong) : Decided wrong value (.ok value)

-- Where each item is decided, so are all of them: what is wrong with one is wrong with the whole.
theorem OnEach.decided {wrong : α → Prop} {value : α → β} {items : List α}
    {outcome : Except Fault (List β)}
    (each : OnEach (fun item => Decided (wrong item) (value item)) items outcome) :
    Decided (∃ item ∈ items, wrong item) (items.map value) outcome := by
  cases each with
  | stopped member ended =>
    cases ended with
    | refused cause fails => exact .refused cause ⟨_, member, fails⟩
  | @all given matched =>
    have known : given = items.map value := by
      induction matched with
      | nil => rfl
      | cons first rest ih =>
        cases first
        rw [ih, List.map_cons]
    rw [known]
    apply Decided.answered
    intro broken
    obtain ⟨item, member, fails⟩ := broken
    obtain ⟨b, -, fits⟩ := (forall₂_partners matched).1 item member
    cases fits with
    | answered fine => exact fine fails

namespace Looks

theorem mapM {P : α → FileTree → Except Fault β → Prop} {f : α → Run β} {items : List α}
    (each : ∀ item ∈ items, Looks (P item) (f item)) :
    Looks (fun tree => OnEach (fun item => P item tree) items) (items.mapM f) := by
  induction items with
  | nil => exact fun w => ⟨.ok [], w.log, rfl, .all .nil⟩
  | cons item rest ih =>
    obtain ⟨first, later⟩ := List.forall_mem_cons.mp each
    intro w
    obtain ⟨outcome, entries, ran, fits⟩ := first w
    rw [List.mapM_cons, on_bind, ran]
    cases outcome with
    | error fault => exact ⟨_, entries, rfl, .stopped List.mem_cons_self fits⟩
    | ok b =>
      dsimp only
      obtain ⟨last, more, ranRest, fitsRest⟩ := ih later { w with log := entries }
      rw [on_bind, ranRest]
      cases fitsRest with
      | stopped member ended => exact ⟨_, more, rfl, .stopped (List.mem_cons_of_mem _ member) ended⟩
      | all matched => exact ⟨_, more, rfl, .all (.cons fits matched)⟩

end Looks
end Run
end PatchReview
