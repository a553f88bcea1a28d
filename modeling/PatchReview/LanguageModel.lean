import PatchReview.Prompt
import PatchReview.World

-- The language model that can be asked for a review.  One client is kept, for the key that it was
-- made with; every question consumes one reply.
namespace PatchReview
namespace LanguageModel

def usualModel : Text := "gemini-2.5-flash-lite"

def client (key : Text) : Run Unit := do
  if key.isEmpty then Run.refuse .noModelKey
  else if (← get).modelClient = some key then pure ()
  else
    match (← get).unmakeable .languageModel key with
    | some message => throw (.outside message)
    | none =>
      Run.record (.modelClient key)
      modify fun w => { w with modelClient := some key }

-- With no reply left the model says nothing.
def nextReply : Run ModelReply :=
  modifyGet fun w =>
    match w.modelReplies with
    | [] => (.text (some []), w)
    | reply :: rest => (reply, { w with modelReplies := rest })

def ask (system user key model : Text) : Run Text := do
  client key
  Run.record (.generate model system user)
  match ← nextReply with
  | .text said => return said.getD []
  | .failed message => throw (.model message)

-- What is answered in place of the service on request.
def cannedReply : Text :=
  Text.unlines [
    "Summary: Adds a configuration loader that reads the API key and posts it to the billing " ++
      "service.",
    "",
    "Issues:",
    "- Bug: \x60loadConfig\x60 returns undefined when the file is missing, callers " ++
      "dereference it without a check.",
    "- Concern: the API key is written to the log on startup, which exposes a credential.",
    "",
    "Suggestions:",
    "- Suggestion: extract the retry loop into a helper so it can be unit tested.",
    "- Consider: caching the parsed config instead of reading the file on every request.",
    "",
    "The nested loop over all accounts is inefficient for large tenants.",
    "",
    "Overall recommendation: request changes before merging."]

end LanguageModel
end PatchReview
