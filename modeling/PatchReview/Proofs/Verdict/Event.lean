import PatchReview.Proofs.Report.Stats
import PatchReview.Proofs.Reviewing.EachFile
import PatchReview.Proofs.Scan.Findings
import PatchReview.Verdict

-- What decides the event of a review.  Where only the rules speak, the code under review decides
-- it: a single line that a security rule fires on asks for changes, and no suggestion counts.
namespace PatchReview

-- The same entry with other suggestions.
def ReviewedFile.suggesting (file : ReviewedFile) (suggestions : List Finding) : ReviewedFile :=
  { file with analysis := { file.analysis with suggestions } }

namespace Verdict

theorem eventFor_insecure {stats : ReviewStats} (found : stats.security ≠ 0) (approve : Bool) :
    eventFor stats approve = "REQUEST_CHANGES" := if_pos found

-- With none but security issues to count, approval is a matter of asking for it.
theorem eventFor_secure {stats : ReviewStats} (clean : stats.security = 0)
    (only : stats.issues = stats.security) (approve : Bool) :
    eventFor stats approve = (if approve then "APPROVE" else "COMMENT" : Text) := by
  have none : stats.issues = 0 := only.trans clean
  unfold eventFor
  rw [if_neg (not_not.mpr clean)]
  cases approve with
  | true => exact if_pos ⟨rfl, none⟩
  | false => exact if_neg fun wanted => Bool.false_ne_true wanted.1

theorem eventFor_suggesting (suggestions : ReviewedFile → List Finding)
    (files : List ReviewedFile) (approve : Bool) :
    eventFor (.ofFiles (files.map fun file => file.suggesting (suggestions file))) approve =
      eventFor (.ofFiles files) approve := by
  let changed := files.map fun file => file.suggesting (suggestions file)
  have issues : (ReviewStats.ofFiles changed).issues = (ReviewStats.ofFiles files).issues :=
    ReviewStats.total_map _ _ files
  have security : (ReviewStats.ofFiles changed).security = (ReviewStats.ofFiles files).security :=
    ReviewStats.total_map _ _ files
  unfold eventFor
  rw [issues, security]

-- The files reviewed by rules alone.
def byRules (files : List ChangedFile) : List ReviewedFile :=
  files.map fun file => Reviewing.entry file (Scan.reviewByRules file)

theorem issues_byRules (files : List ChangedFile) :
    (ReviewStats.ofFiles (byRules files)).issues =
      (ReviewStats.ofFiles (byRules files)).security := by
  apply ReviewStats.total_congr
  intro e member
  obtain ⟨file, -, rfl⟩ := List.mem_map.mp member
  exact congrArg List.length (Scan.securityIssues_reviewByRules file).symm

theorem security_byRules_iff (files : List ChangedFile) :
    (ReviewStats.ofFiles (byRules files)).security ≠ 0 ↔
      ∃ file ∈ files, Scan.HasSecurityLine file := by
  have size (file : ChangedFile) :
      (Scan.reviewByRules file).securityIssues.length = 0 ↔ ¬Scan.HasSecurityLine file := by
    rw [Scan.securityIssues_reviewByRules, List.length_eq_zero_iff, ← Scan.issues_ne_nil_iff,
      not_not]
  unfold ReviewStats.ofFiles byRules
  rw [ne_eq, ReviewStats.total_eq_zero_iff, List.forall_mem_map]
  simp only [Reviewing.entry, size, not_forall, not_not, exists_prop]

theorem requestChanges_ne (approve : Bool) :
    (if approve then "APPROVE" else "COMMENT" : Text) ≠ "REQUEST_CHANGES" := by
  cases approve <;> decide

theorem eventFor_byRules (files : List ChangedFile) (approve : Bool) (scope : Scope)
    (pull : Option PullHeading) (w : World) :
    ∃ review after,
      Run.on (do Reviewing.sumUp (← Reviewing.reviewAll .static files) scope pull) w =
        (.ok review, after) ∧
      (eventFor review.stats approve = "REQUEST_CHANGES" ↔
        ∃ file ∈ files, Scan.HasSecurityLine file) ∧
      ((¬∃ file ∈ files, Scan.HasSecurityLine file) →
        eventFor review.stats approve = (if approve then "APPROVE" else "COMMENT" : Text)) ∧
      review.stats.issues = review.stats.security ∧
      ∀ suggestions : ReviewedFile → List Finding,
        eventFor (.ofFiles (review.files.map fun file => file.suggesting (suggestions file)))
          approve = eventFor review.stats approve := by
  obtain ⟨noted, ran⟩ := Reviewing.reviewAll_byRules (w := w)
    (fun file entries => ⟨_, Analyzer.attempt_static file _, rfl⟩) files
  generalize ({ w with log := noted } : World) = middle at ran
  obtain ⟨review, entries, summed, content, totals⟩ :=
    Reviewing.sumUp_on (byRules files) scope pull middle
  have decided := security_byRules_iff files
  have only := issues_byRules files
  have secure (clean : ¬∃ file ∈ files, Scan.HasSecurityLine file) :
      eventFor (.ofFiles (byRules files)) approve =
        (if approve then "APPROVE" else "COMMENT" : Text) :=
    eventFor_secure (not_not.mp (mt decided.mp clean)) only approve
  have whole : Run.on (do Reviewing.sumUp (← Reviewing.reviewAll .static files) scope pull) w =
      (.ok review, { middle with log := entries }) := by
    rw [Run.on_bind, ran]
    exact summed
  refine ⟨review, _, whole, ?_⟩
  rw [totals, content]
  refine ⟨⟨?_, ?_⟩, secure, only, ?_⟩
  · intro asked
    by_contra clean
    exact requestChanges_ne approve ((secure clean).symm.trans asked)
  · intro touched
    exact eventFor_insecure (decided.mpr touched) approve
  · intro suggestions
    exact eventFor_suggesting suggestions (byRules files) approve

end Verdict
end PatchReview
