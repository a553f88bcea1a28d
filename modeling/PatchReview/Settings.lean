import PatchReview.LanguageModel

-- Settings of a run, taken from the environment once.
namespace PatchReview

structure Settings where
  hostToken : Option Text := none
  modelKey : Option Text := none
  model : Text := LanguageModel.usualModel
  useCanned : Bool := false
  color : Bool := false
  deriving DecidableEq, Repr

namespace Settings

def yesWords : List Text := ["1", "true", "yes"]

def isYes (value : Text) : Bool := yesWords.contains (Text.lower value)

-- Color is for a terminal that no build service looks at.
def wantsColor : Run Bool := do
  let inBuild := (← Run.envValue? "CI").isSome || (← Run.envValue? "GITHUB_ACTIONS").isSome
  return !inBuild && (← get).isTerminal

-- A token that is given, and not empty, goes before that of the environment.
def resolve (token : Option Text) : Run Settings := do
  let fallback ← Run.envValue? "GITHUB_TOKEN"
  return {
    hostToken := (token.filter (!·.isEmpty)).orElse fun _ => fallback
    modelKey := ← Run.envValue? "GEMINI_API_KEY"
    model := (← Run.envValue? "GEMINI_MODEL").getD LanguageModel.usualModel
    useCanned := (← Run.envValue? "USE_MOCK").any isYes
    color := ← wantsColor }

def usesModel (s : Settings) : Bool := s.modelKey.isSome || s.useCanned

def requireToken (s : Settings) : Run Text :=
  match s.hostToken with
  | some token => pure token
  | none => Run.refuse .noToken

end Settings
end PatchReview
