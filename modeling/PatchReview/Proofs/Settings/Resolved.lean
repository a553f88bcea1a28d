import PatchReview.Analyzer
import PatchReview.Proofs.Run.Course

-- What the environment decides: the value of each variable, and from these the settings of a run
-- and what will review the files.
namespace PatchReview

namespace World

-- What a variable is set to; one that is empty counts as not set.
def setting? (name : Text) (w : World) : Option Text :=
  ((w.environment.find? fun entry => entry.1 = name).map (·.2)).filter (!·.isEmpty)

theorem setting?_ne_nil {name value : Text} {w : World} (set : w.setting? name = some value) :
    value ≠ [] := by
  have filled := (Option.filter_eq_some_iff.mp set).2
  simpa using filled

-- The token that counts: the one given, unless it is empty, and else that of the environment.
def token? (given : Option Text) (w : World) : Option Text :=
  (given.filter (!·.isEmpty)).or (w.setting? "GITHUB_TOKEN")

def inBuild (w : World) : Bool :=
  (w.setting? "CI").isSome || (w.setting? "GITHUB_ACTIONS").isSome

def settings (given : Option Text) (w : World) : Settings where
  hostToken := w.token? given
  modelKey := w.setting? "GEMINI_API_KEY"
  model := (w.setting? "GEMINI_MODEL").getD LanguageModel.usualModel
  useCanned := (w.setting? "USE_MOCK").any Settings.isYes
  color := !w.inBuild && w.isTerminal

end World

@[simp] theorem Run.on_envValue? (name : Text) (w : World) :
    (Run.envValue? name).on w = (.ok (w.setting? name), w) := rfl

theorem Settings.resolve_on (given : Option Text) (w : World) :
    (resolve given).on w = (.ok (w.settings given), w) := by
  unfold resolve wantsColor
  simp only [Run.on_bind, Run.on_envValue?, Run.on_pure, Run.on_get]
  rw [Option.orElse_eq_or]
  rfl

namespace Analyzer

-- The language model is asked where there is a key to it, or where its replies are canned.
def chosen (s : Settings) : Analyzer :=
  if s.usesModel then .gemini s.modelKey s.model s.useCanned else .static

theorem ofSettings_on (s : Settings) (w : World) :
    ∃ entries, (ofSettings s).on w = (.ok (chosen s), { w with log := entries }) := by
  unfold ofSettings chosen
  split <;> exact ⟨_, rfl⟩

end Analyzer
end PatchReview
