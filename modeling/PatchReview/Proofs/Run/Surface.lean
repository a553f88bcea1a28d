import PatchReview.Proofs.Git.Leaving
import PatchReview.Proofs.Run.Operations

-- What a review leaves alone.  It reaches to the services and takes notes, but nothing is shown on
-- the way and no file is changed; only git or a command of the user's can do that.
namespace PatchReview

open Run (LogBlind Moves)

variable {R S : World → World → Prop} {token key : Text}

theorem Run.Moves.mono {α : Type} {action : Run α} (moves : Moves R action)
    (wider : ∀ {w after}, R w after → S w after) : Moves S action := fun w => wider (moves w)

theorem Follows.mono (follows : Follows R token key) (blind : LogBlind S)
    (wider : ∀ {w after}, R w after → S w after) : Follows S token key where
  blind := blind
  openPull repository number := (follows.openPull repository number).mono wider
  getFiles w := wider (follows.getFiles w)
  getCommits w := wider (follows.getCommits w)
  createReview commit body event w := wider (follows.createReview commit body event w)
  ask system user model := (follows.ask system user model).mono wider

-- What a user can see is the same, and how it is shown; git was not asked, and has the same before
-- it.
structure SameSurface (w after : World) : Prop where
  isTerminal : after.isTerminal = w.isTerminal
  printed : after.printed = w.printed
  complained : after.complained = w.complained
  left : AsLeft (!·.isGit) w after

namespace SameSurface

theorem refl (w : World) : SameSurface w w := ⟨rfl, rfl, rfl, .refl w⟩

theorem trans {w after last : World} (first : SameSurface w after)
    (second : SameSurface after last) : SameSurface w last where
  isTerminal := second.isTerminal.trans first.isTerminal
  printed := second.printed.trans first.printed
  complained := second.complained.trans first.complained
  left := first.left.trans second.left

instance : IsPreorder World SameSurface where
  refl := refl
  trans _ _ _ := trans

theorem blind : LogBlind SameSurface := fun w after before later same =>
  ⟨same.isTerminal, same.printed, same.complained, AsLeft.blind w after before later same.left⟩

theorem calling {calls : List Call} (others : ∀ call ∈ calls, call.isGit = false) (w : World) :
    SameSurface w (w.calling calls) :=
  ⟨rfl, rfl, rfl, .of_others rfl others ⟨rfl, rfl, rfl⟩⟩

theorem keepHost (token : Text) (w : World) : SameSurface w (w.keepHost token) := by
  unfold World.keepHost
  split
  · exact refl w
  · exact ⟨rfl, rfl, rfl, .of_others rfl (by simp [Call.isGit]) ⟨rfl, rfl, rfl⟩⟩

theorem asked (system user key model : Text) (w : World) :
    SameSurface w (LanguageModel.asked system user key model w) := by
  have kept : SameSurface w (w.keepModel key) := by
    unfold World.keepModel
    split
    · exact refl w
    · exact ⟨rfl, rfl, rfl, .of_others rfl (by simp [Call.isGit]) ⟨rfl, rfl, rfl⟩⟩
  exact kept.trans ⟨rfl, rfl, rfl, .of_others rfl (by simp [Call.isGit]) ⟨rfl, rfl, rfl⟩⟩

theorem follows (token key : Text) : Follows SameSurface token key where
  blind := blind
  openPull repository number w := by
    obtain ⟨outcome, after, ran, opening⟩ := Host.openPull_on repository number token w
    rw [ran]
    cases opening with
    | unnamed | anonymous | unmade => exact refl w
    | noRepository | noPull | opened =>
      exact (keepHost token w).trans (calling (by simp [Call.isGit]) _)
  getFiles := calling (by simp [Call.isGit])
  getCommits := calling (by simp [Call.isGit])
  createReview commit body event := calling (by simp [Call.isGit])
  ask system user model := LanguageModel.ask_moves fun _ => asked system user key model

end SameSurface
end PatchReview
