import PatchReview.Host
import PatchReview.Report.Render
import PatchReview.Reviewing
import PatchReview.Verdict

-- The review of a pull request, from fetching it to posting the result.  A fetch that is refused
-- ends the review, and nothing is posted unless that was asked for.
namespace PatchReview
namespace PullReview

structure Request where
  repository : Text
  number : Int
  token : Text
  analyzer : Analyzer := .static
  post : Bool := false
  approve : Bool := false
  deriving DecidableEq, Repr

-- How far the review came: what is not reached stays empty.
structure State where
  pull : Option PullRequest := none
  files : List ChangedFile := []
  review : Option ReviewSet := none
  event : Option Text := none
  posted : Bool := false
  reviewId : Option Int := none
  error : Option Text := none
  deriving Repr

def headingOf (pull : PullRequest) : PullHeading where
  title := pull.title.display
  author := pull.author.display
  base := pull.base.display

inductive Stage
  | analysis
  | posting
  | done
  deriving DecidableEq, Repr

-- A review whose fetch left an error is over.
def afterFetch (error : Option Text) : Stage :=
  if error.any (!·.isEmpty) then .done else .analysis

def afterReview (wantsPost : Bool) : Stage := if wantsPost then .posting else .done

def fetch (request : Request) : Run State := do
  Run.info .pipeline ("📥 Fetching PR #" ++ Text.ofInt request.number ++ " from " ++
    request.repository ++ "...")
  let fetched ← Run.refusable do
    let pull ← Host.fetchPull request.repository request.number request.token
    let files ← Host.fetchFiles request.repository request.number request.token
    return (pull, files)
  match fetched with
  | .error reason =>
    Run.log .error .pipeline ("Failed to fetch PR: " ++ reason)
    return { error := some reason }
  | .ok (pull, files) =>
    Run.info .pipeline ("   PR: " ++ pull.title.display ++ " by " ++ pull.author.display ++ ", " ++
      Text.ofNat files.length ++ " file(s)")
    return { pull := some pull, files }

def assess (request : Request) (state : State) : Run State := do
  Run.info .pipeline ("🔍 Analysing " ++ Text.ofNat state.files.length ++ " file(s)...")
  let reviewed ← Reviewing.reviewAll request.analyzer state.files
  let review ← Reviewing.sumUp reviewed .pullRequest (state.pull.map headingOf)
  return { state with
    review := some review, event := some (Verdict.eventFor review.stats request.approve) }

def eventOf (state : State) : Text := state.event.getD "COMMENT"

def submission (state : State) : Host.Submission where
  body := (state.review.map MarkdownReport.posted).getD []
  event := .string (eventOf state)

def post (request : Request) (state : State) : Run State := do
  Run.info .pipeline ("📝 Posting " ++ eventOf state ++ " review to GitHub...")
  match ← Run.refusable
      (Host.post request.repository request.number (submission state) request.token) with
  | .error reason =>
    Run.log .error .pipeline ("   ❌ Failed to post review: " ++ reason)
    return { state with error := some reason }
  | .ok id =>
    Run.info .pipeline ("   ✅ Posted review #" ++ Text.ofInt id)
    return { state with posted := true, reviewId := some id }

-- What to do with a finished review, as it is announced.
def decide (wantsPost : Bool) : Run Stage := do
  let stage := afterReview wantsPost
  Run.info .pipeline
    (if stage = .posting then "🔀 Decision: posting review" else "🔀 Decision: not posting")
  return stage

def run (request : Request) : Run State := do
  Run.info .pipeline ("🤖 Running " ++ Narrative.product ++ " on " ++ request.repository ++
    " PR #" ++ Text.ofInt request.number)
  let state ← fetch request
  if afterFetch state.error = .done then return state
  let state ← assess request state
  if (← decide request.post) = .posting then post request state else return state

end PullReview
end PatchReview
