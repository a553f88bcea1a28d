import PatchReview.Proofs.Credential.Orderly
import PatchReview.Proofs.Run.Operations

-- What an operation does to the kept clients.  `Keeps` links the calls that are added to the
-- clients that are kept; each small action follows it, and with them every operation that is put
-- together from them, also where it fails.
namespace PatchReview
namespace Credential

variable {α : Type} {credentials : Service → Text} {w after last : World} {call : Call}

-- The calls that are added are orderly, and what is kept is what they leave.
def Keeps (credentials : Service → Text) (w after : World) : Prop :=
  ∃ calls, after.calls = w.calls ++ calls ∧ ∀ service,
    Orderly service (w.kept service) (calls.map fun call => (credentials service, call)) ∧
    after.kept service = keptAfter service (w.kept service) calls

namespace Keeps

theorem refl (w : World) : Keeps credentials w w :=
  ⟨[], (List.append_nil _).symm, fun _ => ⟨trivial, rfl⟩⟩

theorem trans (first : Keeps credentials w after) (second : Keeps credentials after last) :
    Keeps credentials w last := by
  obtain ⟨calls, added, keeps⟩ := first
  obtain ⟨later, addedLater, keepsLater⟩ := second
  refine ⟨calls ++ later, ?_, fun service => ?_⟩
  · rw [addedLater, added, List.append_assoc]
  · obtain ⟨orderly, kept⟩ := keeps service
    obtain ⟨orderlyLater, keptLater⟩ := keepsLater service
    rw [kept] at orderlyLater keptLater
    refine ⟨?_, ?_⟩
    · rw [List.map_append, orderly_append, map_signed]
      exact ⟨orderly, orderlyLater⟩
    · rw [keptLater, keptAfter_append]

instance : IsPreorder World (Keeps credentials) where
  refl := refl
  trans _ _ _ := trans

theorem blind : Run.LogBlind (Keeps credentials) := by
  rintro w after before later ⟨calls, added, keeps⟩
  refine ⟨calls, added, fun service => ?_⟩
  cases service <;> exact keeps _

-- One call, and the client that it makes is kept.
theorem one (call : Call)
    (fits : ∀ service, Fits service (credentials service) (w.kept service) call)
    (added : after.calls = w.calls ++ [call])
    (kept : ∀ service, after.kept service = (call.made? service).or (w.kept service)) :
    Keeps credentials w after := by
  refine ⟨[call], added, fun service => ⟨⟨fits service, trivial⟩, ?_⟩⟩
  rw [keptAfter_cons, kept service]
  rfl

end Keeps

-- A call that neither makes nor needs a client of any service.
theorem keeps_quiet (call : Call) (quiet : call.isQuiet = true)
    (added : after.calls = w.calls ++ [call]) (kept : after.kept = w.kept) :
    Keeps credentials w after := by
  refine .one call (fun other => ⟨fun credential makes => ?_, fun needed => ?_⟩) added
    fun other => ?_
  · cases (call.made?_of_isQuiet quiet other).symm.trans makes
  · cases (call.needs_of_isQuiet quiet other).symm.trans needed
  · rw [call.made?_of_isQuiet quiet, Option.none_or, kept]

-- A client is made where the kept one has another credential.
theorem keeps_creation (service : Service) (call : Call)
    (made : ∀ other, call.made? other = if other = service then some (credentials other) else none)
    (needs : ∀ other, call.needs other = false) (given : credentials service ≠ [])
    (another : w.kept service ≠ some (credentials service))
    (added : after.calls = w.calls ++ [call])
    (kept : ∀ other, after.kept other = (call.made? other).or (w.kept other)) :
    Keeps credentials w after := by
  refine .one call (fun other => ⟨fun credential makes => ?_, fun needed => ?_⟩) added kept
  · rw [made other] at makes
    by_cases same : other = service
    · subst same
      rw [if_pos rfl] at makes
      cases makes
      exact ⟨rfl, given, another⟩
    · rw [if_neg same] at makes
      cases makes
  · cases (needs other).symm.trans needed

-- A call is made with the kept client of its service.
theorem keeps_use (service : Service) (call : Call) (made : ∀ other, call.made? other = none)
    (needs : ∀ other, call.needs other = true → other = service)
    (serves : w.kept service = some (credentials service))
    (added : after.calls = w.calls ++ [call]) (kept : after.kept = w.kept) :
    Keeps credentials w after := by
  refine .one call (fun other => ⟨fun credential makes => ?_, fun needed => ?_⟩) added
    fun other => ?_
  · cases (made other).symm.trans makes
  · cases needs other needed
    exact serves
  · rw [made other, Option.none_or, kept]

theorem keeps_keepHost (given : credentials .codeHost ≠ []) (w : World) :
    Keeps credentials w (w.keepHost (credentials .codeHost)) := by
  unfold World.keepHost
  split
  · exact .refl w
  · rename_i another
    refine keeps_creation .codeHost (.hostClient (credentials .codeHost)) ?_ ?_ given another rfl ?_
    all_goals intro other; cases other <;> rfl

theorem keeps_keepModel (given : credentials .languageModel ≠ []) (w : World) :
    Keeps credentials w (w.keepModel (credentials .languageModel)) := by
  unfold World.keepModel
  split
  · exact .refl w
  · rename_i another
    refine keeps_creation .languageModel (.modelClient (credentials .languageModel)) ?_ ?_ given
      another rfl ?_
    all_goals intro other; cases other <;> rfl

theorem keeps_getRepository (repository : Text)
    (kept : w.hostClient = some (credentials .codeHost)) :
    Keeps credentials w (w.calling [.getRepository repository]) := by
  refine keeps_use .codeHost (.getRepository repository) (fun other => ?_) (fun other needed => ?_)
    kept rfl rfl
  · cases other <;> rfl
  · cases other with
    | codeHost => rfl
    | languageModel => cases needed

theorem keeps_asked (given : credentials .languageModel ≠ []) (system user model : Text)
    (w : World) :
    Keeps credentials w (LanguageModel.asked system user (credentials .languageModel) model w) := by
  refine (keeps_keepModel given w).trans ?_
  refine keeps_use .languageModel (.generate model system user) (fun other => ?_)
    (fun other needed => ?_) (World.modelClient_keepModel _ w) rfl rfl
  · cases other <;> rfl
  · cases other with
    | codeHost => cases needed
    | languageModel => rfl

theorem keeps_of_opening {repository : Text} {number : Int} {outcome : Except Fault PullRequest}
    (opening : Host.Opening repository number (credentials .codeHost) w outcome after) :
    Keeps credentials w after := by
  have first (given : credentials .codeHost ≠ []) : Keeps credentials w
      ((w.keepHost (credentials .codeHost)).calling [.getRepository repository]) :=
    (keeps_keepHost given w).trans (keeps_getRepository repository World.hostClient_keepHost)
  have both (given : credentials .codeHost ≠ []) : Keeps credentials w
      ((w.keepHost (credentials .codeHost)).calling
        [.getRepository repository, .getPull number]) := by
    rw [← List.singleton_append, ← World.calling_calling]
    exact (first given).trans (keeps_quiet (.getPull number) rfl rfl rfl)
  cases opening with
  | unnamed | anonymous | unmade => exact .refl w
  | noRepository admits => exact first admits.given
  | noPull admits | opened admits => exact both admits.given

theorem keeps_follows (credentials : Service → Text) :
    Follows (Keeps credentials) (credentials .codeHost) (credentials .languageModel) where
  blind := Keeps.blind
  openPull repository number w := by
    obtain ⟨outcome, after, ran, opening⟩ :=
      Host.openPull_on repository number (credentials .codeHost) w
    rw [ran]
    exact keeps_of_opening opening
  getFiles w := keeps_quiet .getFiles rfl rfl rfl
  getCommits w := keeps_quiet .getCommits rfl rfl rfl
  createReview commit body event w :=
    keeps_quiet (.createReview commit body event) rfl rfl rfl
  ask system user model :=
    LanguageModel.ask_moves fun given w => keeps_asked given system user model w

theorem keeps_git (arguments : List Text) (directory : Text) :
    Run.Moves (Keeps credentials) (Git.command arguments directory) :=
  Git.command_moves fun _ => keeps_quiet (.git arguments directory) rfl rfl rfl

end Credential
end PatchReview
