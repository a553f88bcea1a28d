import PatchReview.Proofs.CommandLine.ScanExit
import PatchReview.Proofs.Event.Shape
import PatchReview.Proofs.PullReview.Success

-- How the commands end that review a pull request.  What is asked of them is accepted or not before
-- anything is fetched; then the exit code is zero exactly if the review succeeds, and whatever
-- review there is has been printed, also if it could not be posted.
namespace PatchReview

namespace World

-- An action finds its event where it was told or, failing that, where the environment says.
def eventPath? (given : Option Path) (w : World) : Option Path :=
  given.or ((w.setting? "GITHUB_EVENT_PATH").map Path.ofText)

-- A review begins once it is logged what will review the files.
def started (w : World) : World := ((Analyzer.ofSettings (w.settings none)).on w).2

def complaining (message : Text) (w : World) : World :=
  { w with
    complained :=
      w.complained ++ CommandLine.forStream w.isTerminal ("Error: " ++ message ++ "\n") }

end World

namespace CommandLine

open PullReview (Request State Succeeds Told)

variable {command : Command} {format : Text} {w : World}

-- The format of its report, for a command that reviews a pull request.
def Command.format? : Command → Option Text
  | .pull options => some options.format
  | .action options => some options.format
  | _ => none

-- The request that is made where the repository is named like this, once there is a token.
structure Wanted (w : World) (repository : Json) (number : Int) (given : Option Text)
    (post approve : Bool) (request : Request) : Prop where
  named : repository = .string request.repository
  valid : Repository.isValid request.repository = true
  number : request.number = number
  token : w.token? given = some request.token
  analyzer : request.analyzer = .chosen (w.settings given)
  post : request.post = post
  approve : request.approve = approve

-- What a command is asked to review, if it is asked for something acceptable.
inductive Asks (w : World) : Command → Request → Prop
  | pull {options : PullOptions} {request : Request}
      (wanted : Wanted w (.string (options.owner ++ "/" ++ options.repository)) options.number
        options.token options.post options.approve request) :
    Asks w (.pull options) request
  | action {options : ActionOptions} {path : Path} {reference : Event.Reference}
      {request : Request} (placed : w.eventPath? options.eventPath = some path)
      (answered : ((Event.read path).on w).1 = .ok reference)
      (wanted : Wanted w reference.repository reference.number none options.post false request) :
    Asks w (.action options) request

theorem echo_on (text : Text) (w : World) :
    (echo text).on w =
      (.ok (), { w with printed := w.printed ++ forStream w.isTerminal (text ++ "\n") }) := rfl

theorem fail_on (message : Text) (w : World) :
    (fail message).on w = (.ok 1, w.complaining message) := rfl

theorem orFail_on {α : Type} (action : Run α) (next : α → Run ExitCode) (w : World) :
    (orFail action next).on w =
      match action.on w with
      | (.ok value, after) => (next value).on after
      | (.error fault, after) =>
        if fault.isValueFault then (.ok 1, after.complaining fault.message)
        else (.error fault, after) := by
  unfold orFail
  rw [Run.on_bind, Run.on_refusable]
  rcases action.on w with ⟨fault | value, after⟩
  · cases value : fault.isValueFault <;> simp [value, fail_on]
  · rfl

-- It was said that something went wrong.
def Complains (w after : World) : Prop :=
  ∃ message, after.complained =
    w.complained ++ forStream w.isTerminal ("Error: " ++ message ++ "\n")

-- What a user is told of a review that came to this state.
structure Reported (succeeded : Prop) (format : Text) (color : Bool) (state : State) (w : World)
    (code : ExitCode) (after : World) : Prop where
  calls : after.calls = w.calls
  fine : succeeded → code = 0
  troubled : ¬succeeded → code = 1 ∧ Complains w after
  shown : ∀ review, state.review = some review → ∃ rest, after.printed = w.printed ++
    forStream w.isTerminal (review.render (.ofName (some format)) color ++ "\n") ++ rest

theorem reportPull_on {succeeded : Prop} {state : State} (told : Told succeeded (.ok state))
    (repository : Text) (number : Int) (format : Text) (color : Bool) (w : World) :
    ∃ code after, (reportPull repository number state format color).on w = (.ok code, after) ∧
      Reported succeeded format color state w code after := by
  unfold reportPull
  cases told with
  | silent fine silent reviewed =>
    rw [reviewed, silent]
    dsimp only
    rw [Run.on_bind, echo_on]
    dsimp only [Option.filter]
    by_cases posted : state.posted = true
    · rw [if_pos posted, Run.on_bind, echo_on]
      refine ⟨0, _, rfl, rfl, fun _ => rfl, absurd fine, fun review same => ?_⟩
      cases reviewed.symm.trans same
      exact ⟨_, rfl⟩
    · rw [if_neg posted]
      refine ⟨0, _, rfl, rfl, fun _ => rfl, absurd fine, fun review same => ⟨[], ?_⟩⟩
      cases reviewed.symm.trans same
      exact (List.append_nil _).symm
  | @reported _ reason failed said kept =>
    have filled : Option.filter (!·.isEmpty) (some reason) = some reason :=
      Option.filter_eq_some_iff.mpr ⟨rfl, by simpa using said⟩
    rw [kept, filled]
    dsimp only
    cases reviewed : state.review with
    | none =>
      refine ⟨1, _, rfl, rfl, fun fine => absurd fine failed, fun _ => ⟨rfl, reason, rfl⟩, ?_⟩
      rw [reviewed]
      exact nofun
    | some review =>
      dsimp only
      rw [Run.on_bind, echo_on]
      refine ⟨1, _, rfl, rfl, fun fine => absurd fine failed, fun _ => ⟨rfl, reason, rfl⟩, ?_⟩
      intro other same
      cases reviewed.symm.trans same
      exact ⟨[], (List.append_nil _).symm⟩

theorem Wanted.unique {repository : Json} {number : Int} {given : Option Text}
    {post approve : Bool} {one two : Request}
    (wanted : Wanted w repository number given post approve one)
    (again : Wanted w repository number given post approve two) : one = two := by
  cases one
  cases two
  cases wanted
  cases again
  simp_all

-- The token and the name of the repository are all that is checked before a review begins.
theorem checkAccess_on (repository : Json) (number : Int) (given : Option Text)
    (post approve : Bool) (w : World) :
    (∃ request, Wanted w repository number given post approve request ∧
      (checkAccess (w.settings given) repository).on w =
        (.ok (request.token, request.repository), w)) ∨
    (∀ request, ¬Wanted w repository number given post approve request) ∧
      ∃ fault, (checkAccess (w.settings given) repository).on w = (.error fault, w) ∧
        (fault.isValueFault = true ∨ repository.isText = false) := by
  have hosted : (w.settings given).hostToken = w.token? given := rfl
  unfold checkAccess Settings.requireToken
  rw [Run.on_bind, hosted]
  cases set : w.token? given with
  | none =>
    refine .inr ⟨fun request wanted => ?_, _, rfl, .inl rfl⟩
    cases set.symm.trans wanted.token
  | some token =>
    dsimp only
    rw [Run.on_pure]
    dsimp only
    rw [Run.on_bind]
    cases repository with
    | string name =>
      unfold Repository.validateGiven Repository.validate
      dsimp only
      by_cases valid : Repository.isValid name = true
      · rw [if_pos valid]
        let request : Request :=
          { repository := name, number, token, analyzer := .chosen (w.settings given)
            post, approve }
        exact .inl ⟨request, ⟨rfl, valid, rfl, set, rfl, rfl, rfl⟩, rfl⟩
      · rw [if_neg valid]
        refine .inr ⟨fun request wanted => ?_, _, rfl, .inl rfl⟩
        cases wanted.named
        exact valid wanted.valid
    | illFormed points =>
      refine .inr ⟨fun request wanted => ?_, _, rfl, .inl rfl⟩
      cases wanted.named
    | _ =>
      refine .inr ⟨fun request wanted => ?_, _, rfl, .inr rfl⟩
      cases wanted.named

theorem started_eq (w : World) : ∃ entries, w.started = { w with log := entries } := by
  obtain ⟨entries, ran⟩ := Analyzer.ofSettings_on (w.settings none) w
  exact ⟨entries, congrArg Prod.snd ran⟩

theorem started_told (request : Request) (w : World) :
    Told (Succeeds request w) ((PullReview.run request).on w.started).1 := by
  obtain ⟨entries, begun⟩ := started_eq w
  have same : w.started.SameHost w := by rw [begun]; exact ⟨rfl, rfl, rfl⟩
  refine (PullReview.run_told request w.started).of_iff ?_
  exact ⟨fun succeeds => succeeds.same same, fun succeeds => succeeds.same same.symm⟩

theorem started_sameSurface (request : Request) (w : World) :
    SameSurface w ((PullReview.run request).on w.started).2 := by
  obtain ⟨entries, begun⟩ := started_eq w
  have begins : SameSurface w w.started := by
    rw [begun]
    exact SameSurface.blind w w w.log entries (.refl w)
  exact begins.trans (PullReview.run_sameSurface request w.started)

-- The token has no say in who reviews.
theorem ofSettings_settings (given : Option Text) (w : World) :
    (Analyzer.ofSettings (w.settings given)).on w =
      (.ok (.chosen (w.settings given)), w.started) := by
  obtain ⟨entries, ran⟩ := Analyzer.ofSettings_on (w.settings given) w
  have ended := congrArg Prod.fst ran
  exact Prod.ext ended rfl

-- How a command ends that is asked for one review at most: it does not begin with it, and says why,
-- unless it is told something too strange; or the review fails, or comes to a state.
inductive Ended (w : World) (format : Text) (asks : Request → Prop) (strange : Prop) :
    Except Fault ExitCode → World → Prop
  | refused (idle : ∀ request, ¬asks request) (message : Text) :
    Ended w format asks strange (.ok 1) (w.complaining message)
  | broken {fault : Fault} (idle : ∀ request, ¬asks request) (wrong : strange) :
    Ended w format asks strange (.error fault) w
  | failed {request : Request} {fault : Fault} {last : World} (asked : asks request)
      (only : ∀ other, asks other → other = request)
      (ran : (PullReview.run request).on w.started = (.error fault, last)) :
    Ended w format asks strange (.error fault) last
  | reported {request : Request} {state : State} {last after : World} {code : ExitCode}
      (asked : asks request) (only : ∀ other, asks other → other = request)
      (ran : (PullReview.run request).on w.started = (.ok state, last))
      (told : Reported (Succeeds request w) format (w.settings none).color state last code after) :
    Ended w format asks strange (.ok code) after

theorem runPull_ends (repository : Json) (number : Int) (given : Option Text) (format : Text)
    (post approve : Bool) (w : World) :
    ∃ outcome after,
      (runPull repository number (w.settings given) format post approve).on w = (outcome, after) ∧
      Ended w format (Wanted w repository number given post approve) (repository.isText = false)
        outcome after := by
  unfold runPull
  rw [orFail_on]
  rcases checkAccess_on repository number given post approve w with
    ⟨request, wanted, ran⟩ | ⟨idle, fault, ran, reason⟩
  · rw [ran]
    dsimp only
    rw [Run.on_bind, ofSettings_settings]
    dsimp only
    have whole : request =
        { repository := request.repository, number, token := request.token
          analyzer := .chosen (w.settings given), post, approve } := by
      rw [← wanted.number, ← wanted.analyzer, ← wanted.post, ← wanted.approve]
    rw [← whole, Run.on_bind]
    have only (other : Request) (again : Wanted w repository number given post approve other) :=
      again.unique wanted
    rcases ended : (PullReview.run request).on w.started with ⟨fault | state, last⟩
    · exact ⟨_, _, rfl, .failed wanted only ended⟩
    · dsimp only
      have told := started_told request w
      rw [ended] at told
      obtain ⟨code, after, reported, made⟩ :=
        reportPull_on told request.repository number format (w.settings given).color last
      exact ⟨_, after, reported, .reported wanted only ended made⟩
  · rw [ran]
    dsimp only
    by_cases value : fault.isValueFault = true
    · rw [if_pos value]
      exact ⟨_, _, rfl, .refused idle _⟩
    · rw [if_neg value]
      exact ⟨_, _, rfl, .broken idle (reason.resolve_left value)⟩

-- An action is told of an event that is neither answered nor refused.
inductive Strange (w : World) : Command → Prop
  | action {options : ActionOptions} {path : Path}
      (placed : w.eventPath? options.eventPath = some path)
      (odd : ¬Event.Answered ((Event.read path).on w).1) :
    Strange w (.action options)

theorem Ended.of_iff {asks others : Request → Prop} {strange odd : Prop}
    {outcome : Except Fault ExitCode} {after : World}
    (ended : Ended w format asks strange outcome after)
    (same : ∀ request, asks request ↔ others request) (wider : strange → odd) :
    Ended w format others odd outcome after := by
  obtain rfl : asks = others := funext fun request => propext (same request)
  cases ended with
  | refused idle message => exact .refused idle message
  | broken idle wrong => exact .broken idle (wider wrong)
  | failed asked only ran => exact .failed asked only ran
  | reported asked only ran told => exact .reported asked only ran told

theorem pull_ends (options : PullOptions) (w : World) :
    ∃ outcome after, (execute (.pull options)).on w = (outcome, after) ∧
      Ended w options.format (Asks w (.pull options)) (Strange w (.pull options))
        outcome after := by
  obtain ⟨outcome, after, ran, ended⟩ := runPull_ends
    (.string (options.owner ++ "/" ++ options.repository)) options.number options.token
    options.format options.post options.approve w
  refine ⟨outcome, after, ?_, ended.of_iff (fun request => ⟨.pull, fun asks => ?_⟩) nofun⟩
  · unfold execute runPullCommand
    rw [Run.on_bind, Settings.resolve_on]
    exact ran
  · cases asks with
    | pull wanted => exact wanted

-- An action reads its event and then reviews what it is about.
theorem action_on (options : ActionOptions) (w : World) :
    (execute (.action options)).on w =
      Run.on (match w.eventPath? options.eventPath with
        | none =>
          fail "GITHUB_EVENT_PATH not set. Run inside GitHub Actions or pass --event-path."
        | some path =>
          orFail (Event.read path) fun reference => runPull reference.repository reference.number
            (w.settings none) options.format options.post false) w := by
  unfold execute runAction
  rw [Run.on_bind, Settings.resolve_on]
  dsimp only
  rw [Run.on_bind, Run.on_envValue?]
  dsimp only
  rw [Option.orElse_eq_or]
  rfl

theorem action_ends (options : ActionOptions) (w : World) :
    ∃ outcome after, (execute (.action options)).on w = (outcome, after) ∧
      Ended w options.format (Asks w (.action options)) (Strange w (.action options))
        outcome after := by
  rw [action_on]
  cases placed : w.eventPath? options.eventPath with
  | none =>
    refine ⟨_, _, rfl, .refused (fun request asks => ?_) _⟩
    cases asks with
    | action found => cases placed.symm.trans found
  | some path =>
    dsimp only
    obtain ⟨outcome, read, -⟩ := Event.read_on path w
    rw [orFail_on, read]
    cases outcome with
    | error fault =>
      have idle (request : Request) : ¬Asks w (.action options) request := by
        intro asks
        cases asks with
        | action found answered =>
          cases placed.symm.trans found
          rw [read] at answered
          cases answered
      dsimp only
      by_cases value : fault.isValueFault = true
      · rw [if_pos value]
        exact ⟨_, _, rfl, .refused idle _⟩
      · rw [if_neg value]
        refine ⟨_, _, rfl, .broken idle (.action placed ?_)⟩
        rw [read]
        exact value ∘ Event.answered_error.mp
    | ok reference =>
      obtain ⟨ended, after, ran, told⟩ := runPull_ends reference.repository reference.number none
        options.format options.post false w
      refine ⟨ended, after, ran, told.of_iff (fun request => ⟨?_, fun asks => ?_⟩) ?_⟩
      · exact .action placed (congrArg Prod.fst read)
      · cases asks with
        | action found answered wanted =>
          cases placed.symm.trans found
          rw [read] at answered
          cases answered
          exact wanted
      · intro untextual
        refine .action placed fun answered => ?_
        rw [read] at answered
        cases answered with
        | found text => cases untextual.symm.trans text

namespace Ended

variable {asks : Request → Prop} {strange : Prop} {outcome : Except Fault ExitCode} {after : World}

theorem exits (ended : Ended w format asks strange outcome after) :
    (exitCode outcome = 0 ↔ ∃ request, asks request ∧ Succeeds request w) ∧
      (exitCode outcome = 0 ∨ exitCode outcome = 1) := by
  cases ended with
  | refused idle | broken idle =>
    refine ⟨⟨nofun, fun asked => ?_⟩, .inr rfl⟩
    obtain ⟨request, asked, -⟩ := asked
    exact absurd asked (idle request)
  | @failed request _ _ asked only ran =>
    have told := started_told request w
    rw [ran] at told
    cases told with
    | broken failed =>
      refine ⟨⟨nofun, fun succeeds => ?_⟩, .inr rfl⟩
      obtain ⟨other, again, succeeds⟩ := succeeds
      exact absurd (only other again ▸ succeeds) failed
  | @reported request _ _ _ code asked only ran told =>
    by_cases fine : Succeeds request w
    · rw [exitCode, told.fine fine]
      exact ⟨⟨fun _ => ⟨request, asked, fine⟩, fun _ => rfl⟩, .inl rfl⟩
    · rw [exitCode, (told.troubled fine).1]
      refine ⟨⟨nofun, fun succeeds => ?_⟩, .inr rfl⟩
      obtain ⟨other, again, succeeds⟩ := succeeds
      exact absurd (only other again ▸ succeeds) fine

theorem shown {request : Request} {state : State} {last : World} {review : ReviewSet}
    (ended : Ended w format asks strange outcome after) (asked : asks request)
    (ran : (PullReview.run request).on w.started = (.ok state, last))
    (reviewed : state.review = some review) :
    ∃ rest, after.printed = w.printed ++ forStream w.isTerminal
      (review.render (.ofName (some format)) (w.settings none).color ++ "\n") ++ rest := by
  cases ended with
  | refused idle | broken idle => exact absurd asked (idle request)
  | failed _ only failed =>
    cases only request asked
    cases ran.symm.trans failed
  | reported _ only again told =>
    cases only request asked
    cases ran.symm.trans again
    have same := started_sameSurface request w
    rw [ran] at same
    rw [← same.printed, ← same.isTerminal]
    exact told.shown review reviewed

-- What nobody asked to be approved is not approved, however the command ends.
theorem unapproved (ended : Ended w format asks strange outcome after)
    (withheld : ∀ request, asks request → request.approve = false) :
    ∃ calls, after.calls = w.calls ++ calls ∧
      ∀ commit body, .createReview commit body "APPROVE" ∉ calls := by
  have kept {request : Request} {fate : Except Fault State} {last : World} (asked : asks request)
      (ran : (PullReview.run request).on w.started = (fate, last)) :
      ∃ calls, last.calls = w.calls ++ calls ∧
        ∀ commit body, .createReview commit body "APPROVE" ∉ calls := by
    obtain ⟨entries, begun⟩ := started_eq w
    have adds := PullReview.run_unapproved (withheld request asked) w.started
    rw [ran, begun] at adds
    obtain ⟨calls, added, -, kinds⟩ := adds
    refine ⟨calls, added, fun commit body member => ?_⟩
    cases kinds _ member
  cases ended with
  | refused | broken => exact ⟨[], (List.append_nil _).symm, nofun⟩
  | failed asked _ ran => exact kept asked ran
  | reported asked _ ran told =>
    rw [told.calls]
    exact kept asked ran

end Ended

theorem pull_exit (reviews : command.format? = some format) (w : World) :
    ∃ outcome after, (execute command).on w = (outcome, after) ∧
      (exitCode outcome = 0 ↔ ∃ request, Asks w command request ∧ Succeeds request w) ∧
      (exitCode outcome = 0 ∨ exitCode outcome = 1) ∧
      (∀ request state last review, Asks w command request →
        (PullReview.run request).on w.started = (.ok state, last) → state.review = some review →
        ∃ rest, after.printed = w.printed ++ forStream w.isTerminal
          (review.render (.ofName (some format)) (w.settings none).color ++ "\n") ++ rest) ∧
      ∀ options, command = .action options → ∃ calls, after.calls = w.calls ++ calls ∧
        ∀ commit body, .createReview commit body "APPROVE" ∉ calls := by
  have ends : ∃ outcome after, (execute command).on w = (outcome, after) ∧
      Ended w format (Asks w command) (Strange w command) outcome after := by
    cases command with
    | pull options =>
      cases reviews
      exact pull_ends options w
    | action options =>
      cases reviews
      exact action_ends options w
    | _ => cases reviews
  obtain ⟨outcome, after, ran, ended⟩ := ends
  refine ⟨outcome, after, ran, ended.exits.1, ended.exits.2, ?_, fun options same => ?_⟩
  · intro request state last review asked run reviewed
    exact ended.shown asked run reviewed
  · subst same
    refine ended.unapproved fun request asked => ?_
    cases asked with
    | action placed answered wanted => exact wanted.approve

-- A review that is only to be shown, of a host that would not take it.
def showing : PullOptions where
  owner := "o"
  repository := "r"
  number := 7
  token := some "t"
  format := "markdown"
  post := false
  approve := false

theorem pull_exit_shown : ∃ outcome after,
    (execute (.pull showing)).on { host := PullReview.readOnlyHost } = (outcome, after) ∧
      exitCode outcome = 0 ∧ ∃ review rest, after.printed = forStream false
        (ReviewSet.render (.ofName (some "markdown")) false review ++ "\n") ++ rest := by
  let w : World := { host := PullReview.readOnlyHost }
  let request : Request := { repository := "o/r", number := 7, token := "t" }
  have asked : Asks w (.pull showing) request :=
    .pull ⟨rfl, by decide +kernel, rfl, rfl, rfl, rfl, rfl⟩
  have told := started_told request w
  have reviewed : ((PullReview.run request).on w.started).1.toOption.map
      (fun state => (state.review.isSome, state.error)) = some (true, none) := by decide +kernel
  have reviews : (Command.pull showing).format? = some "markdown".toList := rfl
  obtain ⟨outcome, after, ran, exits, -, shown, -⟩ := pull_exit reviews w
  rcases ended : (PullReview.run request).on w.started with ⟨fault | state, last⟩
  · rw [ended] at reviewed
    cases reviewed
  · rw [ended] at reviewed told
    have held := Option.some.inj reviewed
    obtain ⟨review, found⟩ := Option.isSome_iff_exists.mp (congrArg Prod.fst held)
    have succeeds : Succeeds request w := by
      cases told with
      | silent fine => exact fine
      | reported failed said kept => cases kept.symm.trans (congrArg Prod.snd held)
    refine ⟨outcome, after, ran, exits.mpr ⟨request, asked, succeeds⟩, review, ?_⟩
    exact shown request state last review asked ended found

end CommandLine
end PatchReview
