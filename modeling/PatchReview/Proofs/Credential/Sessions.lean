import PatchReview.Proofs.Credential.Keeping

-- Sessions.  Operations follow each other, each with credentials of its own and each finding the
-- outside in any condition; only the kept clients go over from one to the next.  However they go
-- and wherever they fail, no call is made with a client of another operation's credential.
namespace PatchReview
namespace Credential

inductive Operation
  | fetchPull (repository : Text) (number : Int) (token : Text)
  | fetchFiles (repository : Text) (number : Int) (token : Text)
  | post (repository : Text) (number : Int) (submission : Host.Submission) (token : Text)
  | reviewPull (request : PullReview.Request)
  | ask (system user key model : Text)
  | attempt (analyzer : Analyzer) (file : ChangedFile)
  | reviewFiles (analyzer : Analyzer) (files : List ChangedFile)
  | reviewWorkingTree (analyzer : Analyzer) (source : Reviewing.LocalSource)

namespace Operation

-- The token or key that an operation was given, or the empty one.
def credential : Operation → Service → Text
  | fetchPull _ _ token, .codeHost => token
  | fetchFiles _ _ token, .codeHost => token
  | post _ _ _ token, .codeHost => token
  | reviewPull request, .codeHost => request.token
  | reviewPull request, .languageModel => request.analyzer.key
  | ask _ _ key _, .languageModel => key
  | attempt analyzer _, .languageModel => analyzer.key
  | reviewFiles analyzer _, .languageModel => analyzer.key
  | reviewWorkingTree analyzer _, .languageModel => analyzer.key
  | _, _ => []

def perform : Operation → Run Unit
  | fetchPull repository number token => discard (Host.fetchPull repository number token)
  | fetchFiles repository number token => discard (Host.fetchFiles repository number token)
  | post repository number submission token =>
    discard (Host.post repository number submission token)
  | reviewPull request => discard (PullReview.run request)
  | ask system user key model => discard (LanguageModel.ask system user key model)
  | attempt analyzer file => discard (analyzer.attempt file)
  | reviewFiles analyzer files => discard (Reviewing.reviewAll analyzer files)
  | reviewWorkingTree analyzer source => discard (Reviewing.reviewWorkingTree analyzer source)

theorem perform_keeps (operation : Operation) :
    Run.Moves (Keeps operation.credential) operation.perform := by
  have follows := keeps_follows operation.credential
  cases operation with
  | fetchPull repository number token => exact (follows.fetchPull repository number).map _
  | fetchFiles repository number token => exact (follows.fetchFiles repository number).map _
  | post repository number submission token =>
    exact (follows.post repository number submission).map _
  | reviewPull request => exact (PullReview.run_moves follows).map _
  | ask system user key model => exact (follows.ask system user model).map _
  | attempt analyzer file =>
    refine Run.Moves.map _ fun w => ?_
    obtain ⟨outcome, after, ran, -, moved⟩ := Analyzer.attempt_gives follows.ask file w
    rw [ran]
    exact moved
  | reviewFiles analyzer files => exact (follows.reviewAll files).map _
  | reviewWorkingTree analyzer source => exact (follows.reviewWorkingTree keeps_git source).map _

end Operation

-- An operation and what it finds around it: the answers to come, the files, the settings.
structure Step where
  operation : Operation
  around : World

-- The clients that are kept, by their credentials.
abbrev Kept := Service → Option Text

def unkept : Kept := fun _ => none

namespace Step

-- The kept clients are those of the session, and the calls are the operation's own.
def start (step : Step) (kept : Kept) : World :=
  { step.around with hostClient := kept .codeHost, modelClient := kept .languageModel, calls := [] }

def finish (step : Step) (kept : Kept) : World := (step.operation.perform.on (step.start kept)).2

theorem finish_keeps (step : Step) (kept : Kept) (service : Service) :
    Orderly service (kept service)
      ((step.finish kept).calls.map fun call => (step.operation.credential service, call)) ∧
    (step.finish kept).kept service =
      keptAfter service (kept service) (step.finish kept).calls := by
  obtain ⟨calls, added, keeps⟩ := step.operation.perform_keeps (step.start kept)
  have own : (step.finish kept).calls = calls := added
  have begun : (step.start kept).kept service = kept service := by cases service <;> rfl
  rw [own, ← begun]
  exact keeps service

end Step

-- All calls of a session, each with the operation that makes it.
def trace (kept : Kept) : List Step → List (Operation × Call)
  | [] => []
  | step :: rest =>
    (step.finish kept).calls.map (fun call => (step.operation, call)) ++
      trace (step.finish kept).kept rest

def keptBy (kept : Kept) : List Step → Kept
  | [] => kept
  | step :: rest => keptBy (step.finish kept).kept rest

def signed (service : Service) (calls : List (Operation × Call)) : List (Text × Call) :=
  calls.map fun (operation, call) => (operation.credential service, call)

variable {service : Service} {idle : List Step}

theorem trace_append (kept : Kept) (first second : List Step) :
    trace kept (first ++ second) = trace kept first ++ trace (keptBy kept first) second := by
  induction first generalizing kept with
  | nil => rfl
  | cons step rest ih =>
    rw [List.cons_append, trace, trace, keptBy, ih, List.append_assoc]

theorem keptBy_append (kept : Kept) (first second : List Step) :
    keptBy kept (first ++ second) = keptBy (keptBy kept first) second := by
  induction first generalizing kept with
  | nil => rfl
  | cons step rest ih => exact ih (step.finish kept).kept

theorem map_snd_signed (service : Service) (calls : List (Operation × Call)) :
    (signed service calls).map Prod.snd = calls.map Prod.snd := by
  unfold signed
  rw [List.map_map]
  rfl

theorem map_snd_trace_cons (kept : Kept) (step : Step) (rest : List Step) :
    (trace kept (step :: rest)).map Prod.snd =
      (step.finish kept).calls ++ (trace (step.finish kept).kept rest).map Prod.snd := by
  rw [trace, List.map_append, map_signed]

theorem signed_trace_cons (service : Service) (kept : Kept) (step : Step) (rest : List Step) :
    signed service (trace kept (step :: rest)) =
      (step.finish kept).calls.map (fun call => (step.operation.credential service, call)) ++
        signed service (trace (step.finish kept).kept rest) := by
  unfold signed
  rw [trace, List.map_append, List.map_map]
  rfl

-- What is kept is what the calls leave, all along a session.
theorem trace_orderly (service : Service) (kept : Kept) (steps : List Step) :
    Orderly service (kept service) (signed service (trace kept steps)) ∧
      keptBy kept steps service =
        keptAfter service (kept service) ((trace kept steps).map Prod.snd) := by
  induction steps generalizing kept with
  | nil => exact ⟨trivial, rfl⟩
  | cons step rest ih =>
    obtain ⟨orderly, left⟩ := step.finish_keeps kept service
    obtain ⟨orderlyRest, leftRest⟩ := ih (step.finish kept).kept
    rw [signed_trace_cons, map_snd_trace_cons, orderly_append, map_signed, keptAfter_append, ← left]
    exact ⟨⟨orderly, orderlyRest⟩, leftRest⟩

-- An operation makes no client where it has no credential or where the kept client serves it.
theorem step_creates_nothing (kept : Kept) (step : Step)
    (idle : step.operation.credential service = [] ∨
      kept service = some (step.operation.credential service)) :
    creations service (step.finish kept).calls = [] ∧
      (step.finish kept).kept service = kept service := by
  obtain ⟨orderly, left⟩ := step.finish_keeps kept service
  have nothing := creations_eq_nil idle orderly
  exact ⟨nothing, left.trans (keptAfter_eq nothing)⟩

theorem idle_creates_nothing (kept : Kept)
    (missing : ∀ step ∈ idle, step.operation.credential service = []) :
    creations service ((trace kept idle).map Prod.snd) = [] ∧
      keptBy kept idle service = kept service := by
  induction idle generalizing kept with
  | nil => exact ⟨rfl, rfl⟩
  | cons step rest ih =>
    obtain ⟨nothing, still⟩ := step_creates_nothing kept step (.inl (missing step (.head _)))
    obtain ⟨nothingRest, stillRest⟩ :=
      ih (step.finish kept).kept fun step member => missing step (.tail _ member)
    rw [map_snd_trace_cons, creations_append, nothing, nothingRest]
    exact ⟨rfl, stillRest.trans still⟩

theorem clients_unmixed (steps : List Step) (service : Service) :
    (∀ before operation call after, trace unkept steps = before ++ (operation, call) :: after →
      (call.needs service = true →
        (creations service (before.map Prod.snd)).getLast? = some (operation.credential service)) ∧
      (operation.credential service = [] → call.made? service = none)) ∧
    List.IsChain (· ≠ ·) (creations service ((trace unkept steps).map Prod.snd)) ∧
    ∀ earlier idle next, steps = earlier ++ idle ++ [next] →
      (∀ step ∈ idle, step.operation.credential service = []) →
      (creations service ((trace unkept earlier).map Prod.snd)).getLast? =
        some (next.operation.credential service) →
      creations service ((trace unkept steps).map Prod.snd) =
        creations service ((trace unkept earlier).map Prod.snd) := by
  obtain ⟨orderly, -⟩ := trace_orderly service unkept steps
  refine ⟨?_, ?_, ?_⟩
  · intro before operation call after placed
    rw [placed] at orderly
    unfold signed at orderly
    rw [List.map_append, orderly_append] at orderly
    obtain ⟨-, fits, -⟩ := orderly
    change Fits service _ (keptAfter service none ((signed service before).map Prod.snd)) _ at fits
    rw [map_snd_signed] at fits
    unfold keptAfter at fits
    rw [Option.or_none] at fits
    refine ⟨fits.needs, fun missing => ?_⟩
    cases made : call.made? service with
    | none => rfl
    | some other => exact absurd missing (fits.made other made).2.1
  · have chain := creations_chain orderly
    rwa [map_snd_signed] at chain
  · rintro earlier idle next rfl missing last
    obtain ⟨-, left⟩ := trace_orderly service unkept earlier
    obtain ⟨nothing, still⟩ := idle_creates_nothing (keptBy unkept earlier) missing
    have serves : keptBy (keptBy unkept earlier) idle service =
        some (next.operation.credential service) := by
      rw [still, left]
      unfold keptAfter
      rw [last]
      rfl
    obtain ⟨nothingNext, -⟩ := step_creates_nothing _ next (.inr serves)
    rw [trace_append, trace_append, keptBy_append, List.map_append, List.map_append,
      creations_append, creations_append, nothing, map_snd_trace_cons, creations_append,
      nothingNext]
    exact (List.append_nil _).trans (List.append_nil _)

-- Keys that take turns are each made anew; no key in between leaves the kept client alone.
example (host : CodeHost) :
    let asks (key : Text) : Step := ⟨.ask [] [] key [], { host }⟩
    creations .languageModel ((trace unkept (["a", "b", "", "b", "a"].map asks)).map Prod.snd) =
      ["a", "b", "a"] := by
  rfl

end Credential
end PatchReview
