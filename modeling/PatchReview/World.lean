import PatchReview.Fault
import PatchReview.Review.Basic

-- The world around a review, as a value: settings of the environment, files, what the outside
-- services will answer, and what has been asked of them.  A run changes the world also when it
-- fails.
namespace PatchReview

-- Why a command was not run although it is installed: a null stands in what it was given, or its
-- directory is none or may not be entered, or something else is in the way.
inductive StartFault
  | null
  | file (cause : FileError)
  | outside (message : Text)
  deriving DecidableEq, Repr

def StartFault.fault : StartFault → Fault
  | .null => .refused .nullInPath
  | .file cause => .file cause
  | .outside message => .outside message

-- What becomes of a git command; its directory has a part in that.
inductive GitReply
  | output (text : Text)
  | failed (status : Int) (complaint : Option Text)
  -- What it printed is not UTF-8, however it ended.
  | undecodable (cause : Text.Utf8Error)
  | missing
  | notStarted (cause : StartFault)
  deriving DecidableEq, Repr

def GitReply.wasRun : GitReply → Bool
  | .output _ | .failed .. | .undecodable _ => true
  | .missing | .notStarted _ => false

inductive ModelReply
  | text (t : Option Text)
  | failed (message : Text)
  deriving DecidableEq, Repr

-- A pull request as the code host describes it; whatever a field holds is passed on.
structure PullRequest where
  number : Json
  title : Json := .null
  body : Json := .null
  author : Json := .null
  state : Json := .null
  base : Json := .null
  head : Json := .null
  additions : Json := .null
  deletions : Json := .null
  changedFiles : Json := .null
  url : Json := .null
  draft : Json := .null
  createdAt : Json := .null
  updatedAt : Json := .null
  deriving Repr

-- A changed file as the code host lists it, before anything is checked.
structure ListedFile where
  filename : Json
  status : Json
  additions : Json
  deletions : Json
  patch : Json
  previousFilename : Json
  deriving Repr

inductive Endpoint
  | repository
  | pull
  | files
  | commits
  | createReview
  deriving DecidableEq, Repr

-- An answer with another status than success, or no answer at all.
inductive HostFailure
  | status (code : Int) (data : Json)
  | broken (message : Text)
  deriving Repr

def HostFailure.fault : HostFailure → Fault
  | .status code data => .service code data
  | .broken message => .outside message

-- How the code host answers a request: what it knows, and which endpoints fail.  It need not answer
-- the next request in the same way.
structure CodeHost where
  pull : Int → PullRequest
  files : List ListedFile
  commits : List Text
  reviewId : Int
  failures : Endpoint → Option HostFailure
  later : Option CodeHost := none

def CodeHost.next (host : CodeHost) : CodeHost := host.later.getD host

-- The outside services that need a credential.
inductive Service
  | codeHost
  | languageModel
  deriving DecidableEq, Repr

inductive Call
  | git (arguments : List Text) (directory : Text)
  | hostClient (token : Text)
  | getRepository (name : Text)
  | getPull (number : Int)
  | getFiles
  | getCommits
  | createReview (commit : Text) (body : Option Text) (event : Text)
  | modelClient (key : Text)
  | generate (model system prompt : Text)
  deriving DecidableEq, Repr

inductive Level
  | info
  | warning
  | error
  deriving DecidableEq, Repr

inductive Topic
  | pipeline
  | aggregation
  | analysis
  | codeHost
  | git
  | reviewing
  deriving DecidableEq, Repr

structure LogEntry where
  level : Level
  topic : Topic
  message : Text
  deriving DecidableEq, Repr

structure World where
  environment : List (Text × Text) := []
  isTerminal : Bool := false
  files : FileTree := {}
  gitReplies : List GitReply := []
  modelReplies : List ModelReply := []
  host : CodeHost
  -- The credential of the one client that is kept for each service.
  hostClient : Option Text := none
  modelClient : Option Text := none
  calls : List Call := []
  log : List LogEntry := []
  printed : Text := []
  complained : Text := []
  -- What a git command, run in a directory, leaves of the files.
  gitLeaves : List Text → Text → FileTree → FileTree := fun _ _ files => files
  -- Why no client of a service can be made with a credential.
  unmakeable : Service → Text → Option Text := fun _ _ => none
  levels : Nat := Json.usualLevels

abbrev Run := ExceptT Fault (StateM World)

namespace Run

variable {α : Type}

def refuse (cause : Refusal) : Run α := throw (.refused cause)

def record (call : Call) : Run Unit :=
  modify fun w => { w with calls := w.calls ++ [call] }

def log (level : Level) (topic : Topic) (message : Text) : Run Unit :=
  modify fun w => { w with log := w.log ++ [⟨level, topic, message⟩] }

def info : Topic → Text → Run Unit := log .info

-- The value of a variable; an empty one counts as not set.
def envValue? (name : Text) : Run (Option Text) := do
  let w ← get
  return ((w.environment.find? fun entry => entry.1 = name).map (·.2)).filter (!·.isEmpty)

-- What was refused, as its message, and everything else unchanged.
def refusable (action : Run α) : Run (Except Text α) :=
  tryCatch (Except.ok <$> action) fun fault =>
    if fault.isValueFault then pure (.error fault.message) else throw fault

-- Refusals are given a further cause; everything else is unchanged.
def because (outer : Refusal → Refusal) (action : Run α) : Run α :=
  tryCatch action fun
    | .refused cause => refuse (outer cause)
    | fault => throw fault

end Run
end PatchReview
