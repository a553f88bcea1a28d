import PatchReview.Prose
import PatchReview.Settings

-- Ways to review one file: by the rules, or by asking a language model.  When the model fails, the
-- rules take over for that file only.
namespace PatchReview

inductive Analyzer
  | static
  | gemini (key : Option Text) (model : Text) (canned : Bool)
  deriving DecidableEq, Repr

inductive Outcome
  | reviewed (review : FileReview)
  | degraded (reason : Text)
  deriving DecidableEq, Repr

namespace Analyzer

def name : Analyzer → Text
  | static => "static"
  | gemini .. => "gemini"

def ofSettings (s : Settings) : Run Analyzer := do
  if s.usesModel then
    Run.info .analysis ("Using Gemini-assisted analysis (" ++ s.model ++ ")")
    return .gemini s.modelKey s.model s.useCanned
  else
    Run.info .analysis "Using pattern-based analysis"
    return .static

def obtainReply (key : Option Text) (model : Text) (canned : Bool) (file : ChangedFile) :
    Run Text :=
  if canned then pure LanguageModel.cannedReply
  else
    LanguageModel.ask Prompt.system (Prompt.user file.filename file.status.name file.patch)
      (key.getD []) model

def readReply (file : ChangedFile) (reply : Text) : Outcome :=
  if (Text.trim reply).isEmpty then .degraded "Empty response from Gemini"
  else .reviewed (Prose.parse file.filename reply)

def attempt (analyzer : Analyzer) (file : ChangedFile) : Run Outcome :=
  match analyzer with
  | static => pure (.reviewed (Scan.reviewByRules file))
  | gemini key model canned =>
    tryCatch (readReply file <$> obtainReply key model canned file) fun fault =>
      pure (.degraded fault.message)

def review (analyzer : Analyzer) (file : ChangedFile) : Run FileReview := do
  match ← analyzer.attempt file with
  | .reviewed r => return r
  | .degraded reason =>
    Run.log .warning .analysis (analyzer.name ++ " analysis failed for " ++ file.filename ++
      ", using static analysis: " ++ reason)
    return Scan.reviewByRules file

end Analyzer
end PatchReview
