import PatchReview.Proofs.Run.Course

-- The calls that an action makes.  Calls are only ever added, and the code host turns from one
-- request to the next, whatever else is called in between.
namespace PatchReview

namespace Call

-- The code host answers these.
def isRequest : Call → Bool
  | getRepository _ | getPull _ | getFiles | getCommits | createReview .. => true
  | _ => false

def isFetching : Call → Bool
  | hostClient _ | getRepository _ | getPull _ | getFiles => true
  | _ => false

-- Only a review that is to be posted needs these.
def isPosting : Call → Bool
  | getCommits | createReview .. => true
  | _ => false

def isConsulting : Call → Bool
  | modelClient _ | generate .. => true
  | _ => false

end Call

namespace World

-- The credential of the client that is kept for a service.
def kept (w : World) : Service → Option Text
  | .codeHost => w.hostClient
  | .languageModel => w.modelClient

-- A client with the credential is kept, or one can be made.
def Reaches (w : World) (service : Service) (credential : Text) : Prop :=
  w.kept service = some credential ∨ w.unmakeable service credential = none

theorem reaches_or (w : World) (service : Service) (credential : Text) :
    w.Reaches service credential ∨ w.kept service ≠ some credential ∧
      ∃ message, w.unmakeable service credential = some message := by
  unfold Reaches
  by_cases kept : w.kept service = some credential
  · exact .inl (.inl kept)
  · cases made : w.unmakeable service credential with
    | none => exact .inl (.inr rfl)
    | some message => exact .inr ⟨kept, message, rfl⟩

-- In both worlds the code host is reached in the same way, and answers the same.
structure SameHost (w v : World) : Prop where
  host : w.host = v.host
  client : w.hostClient = v.hostClient
  unmakeable : w.unmakeable = v.unmakeable

namespace SameHost

variable {w v last : World}

theorem refl (w : World) : SameHost w w := ⟨rfl, rfl, rfl⟩

theorem symm (same : SameHost w v) : SameHost v w :=
  ⟨same.host.symm, same.client.symm, same.unmakeable.symm⟩

theorem trans (first : SameHost w v) (second : SameHost v last) : SameHost w last :=
  ⟨first.host.trans second.host, first.client.trans second.client,
    first.unmakeable.trans second.unmakeable⟩

theorem reaches (same : SameHost w v) {token : Text} (reaches : w.Reaches .codeHost token) :
    v.Reaches .codeHost token := by
  unfold Reaches kept at reaches ⊢
  rwa [← same.client, ← same.unmakeable]

end SameHost
end World

-- How the code host behaves once calls were made.
def CodeHost.after (host : CodeHost) (calls : List Call) : CodeHost :=
  calls.foldl (fun host call => if call.isRequest then host.next else host) host

theorem CodeHost.after_append (host : CodeHost) (first second : List Call) :
    host.after (first ++ second) = (host.after first).after second := List.foldl_append

-- Nothing but calls of this kind is asked of the outside.
def Adds (kind : Call → Bool) (w after : World) : Prop :=
  ∃ calls, after.calls = w.calls ++ calls ∧ after.host = w.host.after calls ∧
    ∀ call ∈ calls, kind call = true

namespace Adds

variable {kind : Call → Bool} {w after last : World}

theorem refl (w : World) : Adds kind w w := ⟨[], by simp, rfl, by simp⟩

theorem trans (first : Adds kind w after) (second : Adds kind after last) : Adds kind w last := by
  obtain ⟨calls, added, host, kinds⟩ := first
  obtain ⟨later, addedLater, hostLater, kindsLater⟩ := second
  refine ⟨calls ++ later, ?_, ?_, ?_⟩
  · rw [addedLater, added, List.append_assoc]
  · rw [hostLater, host, CodeHost.after_append]
  · intro call member
    rcases List.mem_append.mp member with early | late
    · exact kinds call early
    · exact kindsLater call late

instance : IsPreorder World (Adds kind) where
  refl := refl
  trans _ _ _ := trans

theorem blind : Run.LogBlind (Adds kind) := fun _ _ _ _ moved => moved

end Adds
end PatchReview
