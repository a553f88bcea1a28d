import PatchReview.Diff.Changes
import PatchReview.FileTree
import PatchReview.Json.Reader
import PatchReview.Json.Writer
import PatchReview.Review.Json

-- What can go wrong, by cause.  A refusal is the program's own: it declines a request and says why.
-- The other faults come from values of the wrong shape and from the world outside.
namespace PatchReview

inductive Refusal
  | badDiff (cause : Diff.ParseError)
  | gitMissing
  | gitFailed (arguments : List Text) (detail : Text)
  | outputNotText (cause : Text.Utf8Error)
  | untrackedUnreadable (path : Text) (cause : FileError)
  | nullInPath
  | stagedChanges (cause : Refusal)
  | uncommittedChanges (cause : Refusal)
  | branchDiff (cause : Refusal)
  | repository (given : Json)
  | noClientToken
  | noToken
  | noModelKey
  | pullNotFound (host : Text) (number : Int)
  | pullFetch (detail : Text)
  | pullFilesFetch (detail : Text)
  | reviewEvent (given : Json)
  | reviewPost (detail : Text)
  | pathNotFound (path : Text)
  | severity (given : Text)
  | eventUnreadable (path : Text) (cause : FileError)
  | eventMalformed (path document : Text) (flaw : Json.ReadFlaw)
  | eventNotObject (path : Text)
  | eventWithoutPull
  | eventWithoutRepository
  | notANumber (given : Json)
  | numberTooLong (digits : Nat)
  | undefinedNumber
  deriving Repr

namespace Refusal

def tokenPage : Text := "Get your token at: https://github.com/settings/tokens"

-- No more is shown of a text that is not a number, its quotes included.
def shownLength : Nat := 200

def message : Refusal → Text
  | badDiff (.numberTooLong digits) => Text.tooLongMessage digits
  | badDiff cause => "Failed to parse diff: " ++ cause.message
  | gitMissing => "git executable not found on PATH"
  | gitFailed arguments detail =>
    "git " ++ Text.joinWith " " arguments ++ " failed: " ++ detail
  | outputNotText cause => cause.message
  | untrackedUnreadable path cause =>
    "Cannot read untracked file " ++ path ++ ": " ++ cause.message
  | nullInPath => "embedded null byte"
  | stagedChanges cause => "Failed to get staged changes: " ++ cause.message
  | uncommittedChanges cause => "Failed to get uncommitted changes: " ++ cause.message
  | branchDiff cause => "Failed to get branch diff: " ++ cause.message
  | repository given =>
    "Invalid repo format: " ++ given.diagnostic ++
      ". Expected 'owner/repo' (e.g. 'octocat/hello-world')."
  | noClientToken => "GITHUB_TOKEN not found. Set it in .env file.\n" ++ tokenPage
  | noToken => "GITHUB_TOKEN not found. Pass --token or set it in .env file.\n" ++ tokenPage
  | noModelKey => "GEMINI_API_KEY not found. Set it in .env file."
  | pullNotFound host number => "PR #" ++ Text.ofInt number ++ " not found in " ++ host
  | pullFetch detail => "Failed to fetch pull request: " ++ detail
  | pullFilesFetch detail => "Failed to fetch pull request files: " ++ detail
  | reviewEvent given =>
    "Invalid review event: " ++ given.diagnostic ++
      ". Expected one of APPROVE, REQUEST_CHANGES, COMMENT."
  | reviewPost detail => "Failed to post review: " ++ detail
  | pathNotFound path => "Path not found: " ++ path
  | severity given =>
    "Invalid severity: " ++ Text.quoted given ++ ". Expected CRITICAL, HIGH, MEDIUM or LOW."
  | eventUnreadable path cause => "Cannot read event payload " ++ path ++ ": " ++ cause.message
  | eventMalformed path document flaw =>
    "Invalid event payload " ++ path ++ ": " ++ flaw.message document
  | eventNotObject path => "Invalid event payload " ++ path ++ ": expected a JSON object"
  | eventWithoutPull => "Event payload does not reference a pull request"
  | eventWithoutRepository => "Repository not found in event payload or GITHUB_REPOSITORY"
  | notANumber given =>
    "invalid literal for int() with base 10: " ++ given.diagnostic.take shownLength
  | numberTooLong digits => Text.tooLongMessage digits
  | undefinedNumber => "cannot convert float NaN to integer"

end Refusal

inductive Fault
  | refused (cause : Refusal)
  | invalid (report : Validation.Report)
  | undecodable (cause : Text.Utf8Error)
  | file (cause : FileError)
  -- The language model's service failed.
  | model (message : Text)
  -- The code host's service answered with a status other than success.
  | service (status : Int) (data : Json)
  -- Something outside failed in a way of its own: a client could not be made, a connection was
  -- lost.
  | outside (message : Text)
  -- A value cannot be used in this way at all: no number, no text, nothing to go through.
  | wrongKind
  -- Fields were asked of a value that has none.
  | noFields
  | noCommit
  | infiniteNumber
  -- Arrays and objects stand too deep inside each other.
  | tooDeep (within : Json.Container)
  deriving Repr

namespace Fault

def serviceMessage (status : Int) (data : Json) : Text :=
  match data with
  | .null => Text.ofInt status
  | data => Text.ofInt status ++ " " ++ data.compact

def message : Fault → Text
  | refused cause => cause.message
  | invalid report => report.message
  | undecodable cause => cause.message
  | file cause => cause.message
  | model message => message
  | service status data => serviceMessage status data
  | outside message => message
  | wrongKind => "wrong kind of value"
  | noFields => "value has no fields"
  | noCommit => "no commit"
  | infiniteNumber => "infinite number"
  | tooDeep within => Json.tooDeepMessage within

-- Faults that say a value was not acceptable; a step that reports instead of failing reports these.
def isValueFault : Fault → Bool
  | refused _ | invalid _ | undecodable _ => true
  | _ => false

end Fault
end PatchReview
