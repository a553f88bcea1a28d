import PatchReview.Git
import PatchReview.Proofs.Run.Calls

-- What git leaves of the files.  Until a command of the user's writes its result, only git changes
-- them, so the calls tell which files are there: each command of git's is run once more.
namespace PatchReview

def Call.isGit : Call → Bool
  | git .. => true
  | _ => false

namespace World

-- The reply to a command by its number from here on; with none left, a command prints nothing.
def reply (w : World) (k : Nat) : GitReply := w.gitReplies[k]?.getD (.output [])

-- The files as the next command leaves them.
def left (w : World) (arguments : List Text) (directory : Text) : FileTree :=
  if (w.reply 0).wasRun then w.gitLeaves arguments directory w.files else w.files

def asking (arguments : List Text) (directory : Text) (w : World) : World :=
  { w with
    calls := w.calls ++ [.git arguments directory]
    gitReplies := w.gitReplies.tail
    files := w.left arguments directory }

def replayOne (w : World) : Call → World
  | .git arguments directory => w.asking arguments directory
  | _ => w

-- The world once these calls were made, as far as git has a part in them.
def replay (w : World) (calls : List Call) : World := calls.foldl replayOne w

variable {w v last : World} {calls : List Call}

theorem reply_asking (w : World) (arguments : List Text) (directory : Text) (k : Nat) :
    (w.asking arguments directory).reply k = w.reply (k + 1) := by
  unfold reply asking
  rw [List.getElem?_tail]

theorem replay_append (w : World) (first second : List Call) :
    w.replay (first ++ second) = (w.replay first).replay second := List.foldl_append

theorem replay_others (w : World) (others : ∀ call ∈ calls, call.isGit = false) :
    w.replay calls = w := by
  induction calls with
  | nil => rfl
  | cons call rest ih =>
    obtain ⟨other, later⟩ := List.forall_mem_cons.mp others
    have still : w.replayOne call = w := by
      cases call <;> first | rfl | cases other
    unfold replay
    rw [List.foldl_cons, still]
    exact ih later

-- In both worlds git has the same files before it, and will do the same.
structure SameGit (w v : World) : Prop where
  files : v.files = w.files
  replies : v.gitReplies = w.gitReplies
  leaves : v.gitLeaves = w.gitLeaves

namespace SameGit

theorem refl (w : World) : SameGit w w := ⟨rfl, rfl, rfl⟩

theorem trans (first : SameGit w v) (second : SameGit v last) : SameGit w last :=
  ⟨second.files.trans first.files, second.replies.trans first.replies,
    second.leaves.trans first.leaves⟩

theorem replayOne (same : SameGit w v) (call : Call) :
    SameGit (w.replayOne call) (v.replayOne call) := by
  cases call with
  | git arguments directory =>
    refine ⟨?_, congrArg List.tail same.replies, same.leaves⟩
    change v.left arguments directory = w.left arguments directory
    unfold left reply
    rw [same.files, same.replies, same.leaves]
  | _ => exact same

theorem replay (same : SameGit w v) (calls : List Call) :
    SameGit (w.replay calls) (v.replay calls) := by
  induction calls generalizing w v with
  | nil => exact same
  | cons call rest ih => exact ih (same.replayOne call)

end SameGit
end World

-- Calls of this kind were made, and the files are as git leaves them by these.
def AsLeft (kind : Call → Bool) (w after : World) : Prop :=
  ∃ calls, after.calls = w.calls ++ calls ∧ (∀ call ∈ calls, kind call = true) ∧
    (w.replay calls).SameGit after

namespace AsLeft

variable {kind : Call → Bool} {w after last : World}

theorem refl (w : World) : AsLeft kind w w := ⟨[], (List.append_nil _).symm, nofun, .refl w⟩

theorem trans (first : AsLeft kind w after) (second : AsLeft kind after last) :
    AsLeft kind w last := by
  obtain ⟨calls, added, kinds, same⟩ := first
  obtain ⟨later, addedLater, kindsLater, sameLater⟩ := second
  refine ⟨calls ++ later, ?_, ?_, ?_⟩
  · rw [addedLater, added, List.append_assoc]
  · exact List.forall_mem_append.mpr ⟨kinds, kindsLater⟩
  · rw [World.replay_append]
    exact (same.replay later).trans sameLater

theorem blind : Run.LogBlind (AsLeft kind) := by
  intro w after before later left
  obtain ⟨calls, added, kinds, same⟩ := left
  have start : World.SameGit w { w with log := before } := ⟨rfl, rfl, rfl⟩
  have same := (start.replay calls).trans same
  exact ⟨calls, added, kinds, ⟨same.files, same.replies, same.leaves⟩⟩

theorem asking {arguments : List Text} {directory : Text}
    (fits : kind (.git arguments directory) = true) (w : World) :
    AsLeft kind w (w.asking arguments directory) := by
  refine ⟨[.git arguments directory], rfl, fun call member => ?_, .refl _⟩
  cases List.mem_singleton.mp member
  exact fits

theorem mono {other : Call → Bool} (left : AsLeft kind w after)
    (wider : ∀ call, kind call = true → other call = true) : AsLeft other w after := by
  obtain ⟨calls, added, kinds, same⟩ := left
  exact ⟨calls, added, fun call member => wider call (kinds call member), same⟩

theorem of_others {calls : List Call} (added : after.calls = w.calls ++ calls)
    (others : ∀ call ∈ calls, call.isGit = false) (same : w.SameGit after) :
    AsLeft (!·.isGit) w after := by
  refine ⟨calls, added, by simpa using others, ?_⟩
  rw [w.replay_others others]
  exact same

end AsLeft
end PatchReview
