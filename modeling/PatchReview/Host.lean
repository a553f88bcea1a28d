import PatchReview.Json.Diagnostic
import PatchReview.Repository

-- The code host that pull requests live on: fetching one, listing its files, and posting a review.
-- One client is kept, for the token that it was made with.
namespace PatchReview
namespace Host

-- A client is made only if the kept one has another token.  Where none can be made, the kept one
-- stays.
def client (token : Text) : Run Unit := do
  if token.isEmpty then Run.refuse .noClientToken
  else if (← get).hostClient = some token then pure ()
  else
    match (← get).unmakeable .codeHost token with
    | some message => throw (.outside message)
    | none =>
      Run.record (.hostClient token)
      modify fun w => { w with hostClient := some token }

-- A call is recorded and then answered, with a fault if its endpoint fails.
def request (endpoint : Endpoint) (call : Call) : Run CodeHost := do
  Run.record call
  let host := (← get).host
  modify fun w => { w with host := host.next }
  match host.failures endpoint with
  | some failure => throw failure.fault
  | none => return host

def openPull (repository : Text) (number : Int) (token : Text) : Run PullRequest := do
  let repository ← Repository.validate repository
  client token
  let _ ← request .repository (.getRepository repository)
  let host ← request .pull (.getPull number)
  return host.pull number

-- What a failed answer says: its own message if it has one.
def failureText (status : Int) (data : Json) : Text :=
  match data.field? "message" with
  | some message => message.display
  | none => Fault.serviceMessage status data

-- Failures of the service become refusals.
def explaining {α : Type} (explain : Int → Json → Run α) (action : Run α) : Run α :=
  tryCatch action fun
    | .service status data => explain status data
    | fault => throw fault

def fetchFailure {α : Type} (repository : Text) (number : Int) (cause : Text → Refusal)
    (status : Int) (data : Json) : Run α :=
  if status = 404 then Run.refuse (.pullNotFound repository number)
  else Run.refuse (cause (failureText status data))

def fetchPull (repository : Text) (number : Int) (token : Text) : Run PullRequest :=
  explaining (fetchFailure repository number .pullFetch) (openPull repository number token)

-- An absent patch is an empty one.
def checkListed (file : ListedFile) : Except Validation.Report ChangedFile :=
  ChangedFile.ofJson (.object [
    ("filename", file.filename), ("status", file.status), ("additions", file.additions),
    ("deletions", file.deletions),
    ("patch", if file.patch.isPresent then file.patch else .string []),
    ("previous_filename", file.previousFilename)])

def checkFiles (files : List ListedFile) : Run (List ChangedFile) :=
  match files.mapM checkListed with
  | .ok files => pure files
  | .error report => throw (.invalid report)

def fetchFiles (repository : Text) (number : Int) (token : Text) : Run (List ChangedFile) :=
  explaining (fetchFailure repository number .pullFilesFetch) do
    let _ ← openPull repository number token
    let host ← request .files .getFiles
    checkFiles host.files

-- A review to post, before anything is checked.
structure Submission where
  body : Option Text := some []
  event : Json := .string "COMMENT"
  deriving Repr

def knownEvents : List Text := ["APPROVE", "REQUEST_CHANGES", "COMMENT"]

def knownEvent? : Json → Option Text
  | .string event => if event ∈ knownEvents then some event else none
  | _ => none

-- The details of a failure, if its data has any: items of a list, characters of a text, keys of an
-- object.  Other values have nothing to go through.
def failureDetails (data : Json) : Except Fault (List Text) :=
  match data.field? "errors" with
  | none => .ok []
  | some (.array items) => .ok (items.map Json.display)
  | some (.string text) => .ok (text.map fun c => [c])
  | some (.illFormed points) => .ok (points.map fun point => [point.shown])
  | some (.object fields) => .ok (fields.map (·.1))
  | some _ => .error .wrongKind

def logDetails (data : Json) : Run Unit :=
  match failureDetails data with
  | .error fault => throw fault
  | .ok details => details.forM fun detail => Run.log .error .codeHost ("  - " ++ detail)

def postFailure {α : Type} (status : Int) (data : Json) : Run α := do
  let detail := failureText status data
  Run.log .error .codeHost ("Failed to post review: " ++ detail)
  logDetails data
  Run.refuse (.reviewPost detail)

-- The review goes to the last commit.
def submit (repository : Text) (number : Int) (body : Option Text) (event token : Text) :
    Run Int := do
  let _ ← openPull repository number token
  let host ← request .commits .getCommits
  match host.commits.getLast? with
  | none => throw .noCommit
  | some commit =>
    let host ← request .createReview (.createReview commit body event)
    Run.info .codeHost ("Posted " ++ event ++ " review " ++ Text.ofInt host.reviewId ++
      " on PR #" ++ Text.ofInt number)
    return host.reviewId

def post (repository : Text) (number : Int) (submission : Submission) (token : Text) :
    Run Int :=
  match knownEvent? submission.event with
  | some event => explaining postFailure (submit repository number submission.body event token)
  | none => Run.refuse (.reviewEvent submission.event)

end Host
end PatchReview
