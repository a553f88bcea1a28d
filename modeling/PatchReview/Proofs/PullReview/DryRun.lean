import PatchReview.Proofs.PullReview.Course

-- A run that is not to post, beside one that is.  The two do the same up to the decision, so the
-- first shows what the second will find and under which event it will post, whether or not it
-- succeeds.
namespace PatchReview
namespace PullReview

variable {request : Request} {state last : State} {w after : World}

-- What a review found, apart from what became of posting it.
structure SameFindings (state other : State) : Prop where
  pull : state.pull = other.pull
  files : state.files = other.files
  review : state.review = other.review
  event : state.event = other.event

-- The answer to a post is added to a state, and nothing of what was found is replaced.
theorem post_keeps (ran : (post request state).on w = (.ok last, after)) :
    SameFindings last state := by
  unfold post Run.info at ran
  rw [Run.on_bind, Run.on_log] at ran
  dsimp only at ran
  rw [Run.on_bind] at ran
  split at ran
  · split at ran
    · rw [Run.on_bind, Run.on_log] at ran
      cases ran
      exact ⟨rfl, rfl, rfl, rfl⟩
    · rw [Run.on_bind, Run.on_log] at ran
      cases ran
      exact ⟨rfl, rfl, rfl, rfl⟩
  · cases ran

-- What comes before the decision does not look at it.
theorem preparing_posting (request : Request) (post : Bool) :
    preparing { request with post } = preparing request := rfl

-- Without the wish to post there is a state, unless something outside breaks off; it then does so
-- with that wish as well.
theorem dry_run_predicts (request : Request) (w : World) :
    ∃ dry after real later, (run { request with post := false }).on w = (dry, after) ∧
      (run { request with post := true }).on w = (real, later) ∧
      after.calls <+: later.calls ∧
      (∀ state last, dry = .ok state → real = .ok last → SameFindings last state) ∧
      ∀ fault, dry = .error fault → w.Broken request.token fault ∧ real = .error fault := by
  obtain ⟨outcome, begun, prepared, course, -⟩ := preparing_ends request w
  have begins (post : Bool) : (preparing { request with post }).on w = (outcome, begun) := by
    rw [preparing_posting, prepared]
  cases course with
  | @broken fault _ broken ended =>
    have dry := run_broken (begins false)
    have real := run_broken (begins true)
    refine ⟨_, begun, _, begun, dry, real, List.prefix_rfl, fun state last same => ?_,
      fun fault same => ?_⟩
    · cases same
    · cases same
      exact ⟨broken, rfl⟩
  | refused value =>
    have dry := run_on { request with post := false } (begins false)
    have real := run_on { request with post := true } (begins true)
    rw [if_pos (fetched_error value)] at dry real
    refine ⟨_, begun, _, begun, dry, real, List.prefix_rfl, fun state last one other => ?_,
      fun _ same => nomatch same⟩
    cases one
    cases other
    exact ⟨rfl, rfl, rfl, rfl⟩
  | reviewed ended assessed same =>
    have dry := run_on { request with post := false } (begins false)
    have real := run_on { request with post := true } (begins true)
    have onward : ¬afterFetch none = .done := nofun
    obtain ⟨entries, kept⟩ := concluding_on { request with post := false } _ begun
    obtain ⟨others, posts⟩ := concluding_on { request with post := true } _ begun
    rw [if_neg onward, kept] at dry
    rw [if_neg onward, posts] at real
    have posting : Assessed { request with post := true } _ _ :=
      ⟨assessed.reviewed, assessed.matched, assessed.event⟩
    obtain ⟨calls, added, -⟩ := post_adds posting { begun with log := others }
    refine ⟨_, _, _, _, dry, real, ⟨calls, added.symm⟩, fun state last one other => ?_,
      fun _ same => nomatch same⟩
    cases one
    exact post_keeps (Prod.ext other rfl)

end PullReview
end PatchReview
