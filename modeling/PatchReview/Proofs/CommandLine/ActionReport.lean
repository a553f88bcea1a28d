import PatchReview.Proofs.CommandLine.PullExit

-- What an action always leaves behind: a report, or a line that says what went wrong.  This takes
-- an event that can be used; one that cannot ends the action without a word.
namespace PatchReview
namespace CommandLine

variable {options : ActionOptions} {w : World}

-- A review was printed.
def Shows (format : Text) (w after : World) : Prop :=
  ∃ review rest, after.printed = w.printed ++ forStream w.isTerminal
    (ReviewSet.render (.ofName (some format)) (w.settings none).color review ++ "\n") ++ rest

theorem started_onward (w : World) : w.Onward w.started := by
  obtain ⟨entries, begun⟩ := started_eq w
  rw [begun]
  exact ⟨⟨[], rfl⟩, rfl⟩

-- How an action ends that is not stopped by its event.
inductive Leaves (options : ActionOptions) (w : World) : Except Fault ExitCode → World → Prop
  | report {after : World} (shows : Shows options.format w after) : Leaves options w (.ok 0) after
  | complaint {after : World} (complains : Complains w after) : Leaves options w (.ok 1) after
  | unposted {fault : Fault} {after : World} (posts : options.post = true)
      (unreported : Host.Unreported fault) : Leaves options w (.error fault) after
  | broken {token : Text} {fault : Fault} {after : World} (given : w.token? none = some token)
      (broken : w.Broken token fault) : Leaves options w (.error fault) after

theorem Ended.leaves {outcome : Except Fault ExitCode} {after : World}
    (ended : Ended w options.format (Asks w (.action options)) (Strange w (.action options)) outcome
      after) (plain : ¬Strange w (.action options)) : Leaves options w outcome after := by
  cases ended with
  | refused idle message => exact .complaint ⟨message, rfl⟩
  | broken idle wrong => exact absurd wrong plain
  | @failed request fault last asked only ran =>
    cases asked with
    | action placed answered asks =>
      rcases PullReview.run_fails ran with ⟨message, said, breaks⟩ | ⟨wanted, unreported⟩
      · exact .broken asks.token ⟨message, said, (started_onward w).breaks breaks⟩
      · exact .unposted (asks.post ▸ wanted) unreported
  | @reported request state last after code asked only ran made =>
    have told := started_told request w
    have same := started_sameSurface request w
    rw [ran] at told same
    cases told with
    | silent fine silent reviewed =>
      obtain ⟨rest, printed⟩ := made.shown _ reviewed
      rw [made.fine fine]
      rw [same.printed, same.isTerminal] at printed
      exact .report ⟨_, rest, printed⟩
    | reported failed =>
      obtain ⟨exits, message, complained⟩ := made.troubled failed
      rw [exits]
      rw [same.complained, same.isTerminal] at complained
      exact .complaint ⟨message, complained⟩

-- An event whose reading breaks off ends the action, and nobody is told.
theorem action_silent {path : Path} {fault : Fault}
    (placed : w.eventPath? options.eventPath = some path)
    (ended : ((Event.read path).on w).1 = .error fault) (escapes : fault.isValueFault = false) :
    (execute (.action options)).on w = (.error fault, w) := by
  obtain ⟨outcome, read, -⟩ := Event.read_on path w
  rw [read] at ended
  cases ended
  rw [action_on, placed]
  dsimp only
  rw [orFail_on, read]
  dsimp only
  rw [escapes]
  rfl

theorem event_answered (w : World) :
    (∀ path, ∃ outcome, (Event.read path).on w = (outcome, w) ∧
      (Event.Answered outcome ↔ ¬Event.Unusable w path)) ∧
    (∀ options : ActionOptions,
      (∀ path, w.eventPath? options.eventPath = some path → ¬Event.Unusable w path) →
      ∃ outcome after, (execute (.action options)).on w = (outcome, after) ∧
        Leaves options w outcome after) ∧
    ∀ (options : ActionOptions) (path : Path) (fault : Fault),
      w.eventPath? options.eventPath = some path → ((Event.read path).on w).1 = .error fault →
      fault.isValueFault = false → (execute (.action options)).on w = (.error fault, w) := by
  have reads (path : Path) := Event.read_on path w
  refine ⟨reads, fun options usable => ?_, fun options path fault => action_silent⟩
  obtain ⟨outcome, after, ran, ended⟩ := action_ends options w
  refine ⟨outcome, after, ran, ended.leaves fun strange => ?_⟩
  cases strange with
  | @action _ path placed odd =>
    obtain ⟨reference, read, answered_iff⟩ := reads path
    rw [read] at odd
    exact odd (answered_iff.mpr (usable path placed))

-- A world with an event and nothing else.
def onlyEvent (payload : Text) : World :=
  onlyFiles { files := [(["event.json"], Text.encodeUtf8 payload)] }

def onEvent : ActionOptions where
  eventPath := some (.ofText "event.json")
  format := "markdown"
  post := false

-- The pull request is no record.
def strayEvent : World := onlyEvent "\x7b\"pull_request\": \"x\"\x7d"

def plainEvent : World :=
  onlyEvent "\x7b\"number\": 3, \"repository\": \x7b\"full_name\": \"o/r\"\x7d\x7d"

-- Fields were asked of a value that has none.
def lacksFields : Except Fault Event.Reference → Bool
  | .error .noFields => true
  | _ => false

def namesRepository : Except Fault Event.Reference → Bool
  | .ok reference => reference.repository.isText && reference.repository.isPresent
  | .error _ => false

theorem event_answered_stray :
    Event.Unusable strayEvent (.ofText "event.json") ∧
    (execute (.action onEvent)).on strayEvent = (.error .noFields, strayEvent) ∧
    ∃ outcome after, (execute (.action onEvent)).on plainEvent = (outcome, after) ∧
      Leaves onEvent plainEvent outcome after := by
  have ended : ((Event.read (.ofText "event.json")).on strayEvent).1 = .error .noFields := by
    have same : lacksFields ((Event.read (.ofText "event.json")).on strayEvent).1 = true := by
      decide +kernel
    unfold lacksFields at same
    split at same
    · assumption
    · cases same
  refine ⟨?_, ?_, ?_⟩
  · obtain ⟨outcome, read, answered_iff⟩ := (event_answered strayEvent).1 (.ofText "event.json")
    rw [read] at ended
    cases ended
    by_contra usable
    cases Event.answered_error.mp (answered_iff.mpr usable)
  · exact (event_answered strayEvent).2.2 onEvent _ _ rfl ended rfl
  · refine (event_answered plainEvent).2.1 onEvent fun path placed => ?_
    cases placed
    obtain ⟨outcome, read, answered_iff⟩ := (event_answered plainEvent).1 (.ofText "event.json")
    have named :
        namesRepository ((Event.read (.ofText "event.json")).on plainEvent).1 = true := by
      decide +kernel
    rw [read] at named
    cases outcome with
    | error fault => cases named
    | ok reference =>
      unfold namesRepository at named
      rw [Bool.and_eq_true] at named
      exact answered_iff.mp (.found named.1 named.2)

end CommandLine
end PatchReview
