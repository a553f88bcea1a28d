import Mathlib.Data.List.Chain
import PatchReview.Proofs.Host.Posting
import PatchReview.Proofs.LanguageModel.Asking

-- Clients and credentials.  For each service one client is kept, hidden from whoever reads the
-- calls; but what is kept is always the client that was made last, so the calls alone show that
-- none is used with the wrong credential and none is made twice in a row.
namespace PatchReview

-- The credential of the client that a call makes.
def Call.made? (service : Service) (call : Call) : Option Text :=
  match service, call with
  | .codeHost, hostClient token => some token
  | .languageModel, modelClient key => some key
  | _, _ => none

-- The calls that are made with a client of a service, and with no other call before them.
def Call.needs (service : Service) (call : Call) : Bool :=
  match service, call with
  | .codeHost, getRepository _ => true
  | .languageModel, generate .. => true
  | _, _ => false

-- Neither of the two, for any service.
def Call.isQuiet : Call → Bool
  | hostClient _ | getRepository _ | modelClient _ | generate .. => false
  | _ => true

theorem Call.made?_of_isQuiet (call : Call) (quiet : call.isQuiet = true) (service : Service) :
    call.made? service = none := by
  cases service <;> cases call <;> first | rfl | cases quiet

theorem Call.needs_of_isQuiet (call : Call) (quiet : call.isQuiet = true) (service : Service) :
    call.needs service = false := by
  cases service <;> cases call <;> first | rfl | cases quiet

namespace Credential

def creations (service : Service) (calls : List Call) : List Text :=
  calls.filterMap (Call.made? service)

-- The credential of the client that is kept after some calls.
def keptAfter (service : Service) (kept : Option Text) (calls : List Call) : Option Text :=
  (creations service calls).getLast?.or kept

-- A client is made with the credential of the operation, and only where the kept one has another; a
-- call that needs a client finds one that has it.
structure Fits (service : Service) (credential : Text) (kept : Option Text) (call : Call) :
    Prop where
  made : ∀ made, call.made? service = some made →
    made = credential ∧ credential ≠ [] ∧ kept ≠ some credential
  needs : call.needs service = true → kept = some credential

-- Calls, each with the credential of the operation that makes it, from the first one on.
def Orderly (service : Service) (kept : Option Text) : List (Text × Call) → Prop
  | [] => True
  | (credential, call) :: rest =>
    Fits service credential kept call ∧ Orderly service ((call.made? service).or kept) rest

variable {service : Service} {kept : Option Text} {calls first second : List Call}
variable {signed before after : List (Text × Call)} {credential : Text} {call : Call}

theorem creations_append (service : Service) (first second : List Call) :
    creations service (first ++ second) = creations service first ++ creations service second :=
  List.filterMap_append

theorem keptAfter_cons (service : Service) (kept : Option Text) (call : Call) (calls : List Call) :
    keptAfter service kept (call :: calls) =
      keptAfter service ((call.made? service).or kept) calls := by
  unfold keptAfter creations
  cases made : call.made? service with
  | none => rw [List.filterMap_cons_none made, Option.none_or]
  | some credential =>
    rw [List.filterMap_cons_some made, List.getLast?_cons]
    cases (calls.filterMap (Call.made? service)).getLast? <;> rfl

theorem keptAfter_append (service : Service) (kept : Option Text) (first second : List Call) :
    keptAfter service kept (first ++ second) =
      keptAfter service (keptAfter service kept first) second := by
  unfold keptAfter
  rw [creations_append, List.getLast?_append, Option.or_assoc]

theorem orderly_append :
    Orderly service kept (before ++ after) ↔ Orderly service kept before ∧
      Orderly service (keptAfter service kept (before.map Prod.snd)) after := by
  induction before generalizing kept with
  | nil => exact (true_and _).symm.to_iff
  | cons head rest ih =>
    rw [List.cons_append, Orderly, Orderly, ih, List.map_cons, keptAfter_cons, and_assoc]

theorem map_signed {α : Type} (maker : α) (calls : List Call) :
    (calls.map fun call => (maker, call)).map Prod.snd = calls := by
  rw [List.map_map]
  exact List.map_id calls

-- Where the kept client serves, and where there is no credential, none is made.
theorem creations_eq_nil (idle : credential = [] ∨ kept = some credential)
    (orderly : Orderly service kept (calls.map fun call => (credential, call))) :
    creations service calls = [] := by
  induction calls with
  | nil => rfl
  | cons call rest ih =>
    obtain ⟨fits, orderly⟩ := orderly
    cases made : call.made? service with
    | none =>
      rw [made, Option.none_or] at orderly
      unfold creations
      rw [List.filterMap_cons_none made]
      exact ih orderly
    | some other =>
      obtain ⟨-, given, another⟩ := fits.made other made
      rcases idle with missing | kept
      · exact absurd missing given
      · exact absurd kept another

theorem keptAfter_eq (idle : creations service calls = []) :
    keptAfter service kept calls = kept := by
  unfold keptAfter
  rw [idle]
  exact Option.none_or

-- No client is made twice in a row, not even if the first of them was kept from before.
theorem creations_chain (orderly : Orderly service kept signed) :
    List.IsChain (· ≠ ·) (kept.toList ++ creations service (signed.map Prod.snd)) := by
  induction signed generalizing kept with
  | nil => cases kept <;> simp [creations]
  | cons head rest ih =>
    obtain ⟨credential, call⟩ := head
    obtain ⟨fits, orderly⟩ := orderly
    have chain := ih orderly
    unfold creations at chain ⊢
    cases made : call.made? service with
    | none =>
      rw [made, Option.none_or] at chain
      rwa [List.map_cons, List.filterMap_cons_none made]
    | some other =>
      obtain ⟨rfl, -, another⟩ := fits.made other made
      rw [made, Option.some_or] at chain
      rw [List.map_cons, List.filterMap_cons_some made]
      cases kept with
      | none => exact chain
      | some older => exact .cons_cons (fun same => another (congrArg some same)) chain

end Credential
end PatchReview
