import PatchReview.Proofs.Report.Stats
import PatchReview.Proofs.Reviewing.EachFile
import PatchReview.Proofs.Verdict.Critical

-- The security findings of a review, most severe first.  Ranking them loses nothing and adds
-- nothing, leaves findings of one level in the order in which the files have them, and goes
-- together with asking for one level: it makes no difference whether the others are left out before
-- or after.
namespace PatchReview

def Severity.descending : List Severity := [critical, high, medium, low]

theorem Severity.rank_eq (level : Severity) : level.rank = descending.idxOf level := by
  cases level <;> rfl

-- Every issue of a review with the file it is about.
def ReviewSet.issuesByFile (review : ReviewSet) : List (Text × Finding) :=
  review.files.flatMap fun file => file.analysis.issues.map fun issue => (file.filename, issue)

namespace Verdict

def IsOfLevel (wanted : Option Severity) (pair : Text × Finding) : Bool :=
  wanted.all (· = pair.2.severity)

-- The security issues of a review, those of one level only if one is wanted.
def securityIssues (review : ReviewSet) (wanted : Option Severity) : List (Text × Finding) :=
  review.issuesByFile.filter fun pair => IsOfLevel wanted pair && pair.2.category = .security

-- Together the three leave only one order.
structure IsRanked (given found : List (Text × Finding)) : Prop where
  perm : found.Perm given
  descending : found.Pairwise fun one two =>
    Severity.descending.idxOf one.2.severity ≤ Severity.descending.idxOf two.2.severity
  stable : ∀ level, found.filter (IsOfLevel (some level)) = given.filter (IsOfLevel (some level))

theorem noLessSevere_trans (a b c : Text × Finding) (one : noLessSevere a b = true)
    (two : noLessSevere b c = true) : noLessSevere a c = true := by
  simp only [noLessSevere, decide_eq_true_eq] at one two ⊢
  exact Nat.le_trans one two

theorem noLessSevere_total (a b : Text × Finding) :
    (noLessSevere a b || noLessSevere b a) = true := by
  simp only [noLessSevere, Bool.or_eq_true, decide_eq_true_eq]
  exact Nat.le_total _ _

section
variable {given : List (Text × Finding)} {level : Severity}

-- Among findings of one level none goes first.
theorem pairwise_level (only : ∀ pair ∈ given, IsOfLevel (some level) pair = true) :
    given.Pairwise fun a b => noLessSevere a b = true := by
  have same (pair : Text × Finding) (member : pair ∈ given) : pair.2.severity = level := by
    simpa [IsOfLevel, eq_comm] using only pair member
  apply List.pairwise_of_forall_mem_list
  intro a first b second
  rw [noLessSevere, same a first, same b second]
  exact decide_eq_true (Nat.le_refl _)

theorem isRanked_mergeSort (given : List (Text × Finding)) :
    IsRanked given (given.mergeSort noLessSevere) where
  perm := List.mergeSort_perm given noLessSevere
  descending := by
    have sorted := List.pairwise_mergeSort noLessSevere_trans noLessSevere_total given
    simpa only [noLessSevere, decide_eq_true_eq, Severity.rank_eq] using sorted
  stable := by
    intro level
    have only : ∀ pair ∈ given.filter (IsOfLevel (some level)), IsOfLevel (some level) pair :=
      fun pair member => List.of_mem_filter member
    -- What is of one level stands in order already, so sorting keeps it as a sublist.
    have kept : (given.filter (IsOfLevel (some level))).Sublist (given.mergeSort noLessSevere) :=
      List.sublist_mergeSort noLessSevere_trans noLessSevere_total (pairwise_level only)
        List.filter_sublist
    have kept := kept.filter (IsOfLevel (some level))
    rw [List.filter_eq_self.mpr only] at kept
    have perm := (List.mergeSort_perm given noLessSevere).filter (IsOfLevel (some level))
    exact (kept.eq_of_length perm.length_eq.symm).symm

theorem mergeSort_filter (wanted : Option Severity) (given : List (Text × Finding)) :
    (given.filter (IsOfLevel wanted)).mergeSort noLessSevere =
      (given.mergeSort noLessSevere).filter (IsOfLevel wanted) := by
  cases wanted with
  | none =>
    have all (pairs : List (Text × Finding)) : pairs.filter (IsOfLevel none) = pairs :=
      List.filter_eq_self.mpr fun _ _ => rfl
    rw [all, all]
  | some level =>
    have only : ∀ pair ∈ given.filter (IsOfLevel (some level)), IsOfLevel (some level) pair :=
      fun pair member => List.of_mem_filter member
    rw [List.mergeSort_of_pairwise (pairwise_level only), (isRanked_mergeSort given).stable level]

end

section
variable (review : ReviewSet)

theorem securityPairs_eq : securityPairs review = securityIssues review none := by
  unfold securityPairs securityIssues ReviewSet.issuesByFile FileReview.securityIssues
  rw [List.filter_flatMap]
  simp only [List.filter_map]
  rfl

theorem securityIssues_eq (wanted : Option Severity) :
    securityIssues review wanted = (securityIssues review none).filter (IsOfLevel wanted) := by
  unfold securityIssues
  rw [List.filter_filter]
  rfl

theorem mostSevereFirst_eq (filter : Option Text) :
    mostSevereFirst review filter = (wantedSeverity filter).map fun wanted =>
      (securityIssues review wanted).mergeSort noLessSevere := by
  unfold mostSevereFirst
  congr 1
  funext wanted
  rw [securityIssues_eq, ← securityPairs_eq]
  rfl

theorem length_securityIssues :
    (securityIssues review none).length = (ReviewStats.ofFiles review.files).security := by
  rw [← securityPairs_eq]
  unfold securityPairs ReviewStats.ofFiles
  simp only [ReviewStats.total_eq_sum, List.length_flatMap, List.length_map]

theorem anyCritical_iff {found : List (Text × Finding)}
    (ranked : IsRanked (securityIssues review none) found) :
    anyCritical found = true ↔ ∃ file ∈ review.files, ∃ issue ∈ file.analysis.issues,
      issue.category = .security ∧ issue.severity = .critical := by
  unfold anyCritical
  simp only [List.any_eq_true, ranked.perm.mem_iff, securityIssues, ReviewSet.issuesByFile,
    IsOfLevel, Option.all_none, Bool.true_and, List.mem_filter, List.mem_flatMap, List.mem_map,
    decide_eq_true_eq]
  constructor
  · rintro ⟨_, ⟨⟨file, listed, issue, member, rfl⟩, secure⟩, critical⟩
    exact ⟨file, listed, issue, member, secure, critical⟩
  · rintro ⟨file, listed, issue, member, secure, critical⟩
    exact ⟨_, ⟨⟨file, listed, issue, member, rfl⟩, secure⟩, critical⟩

end

theorem findings_ranked :
    (∀ (review : ReviewSet) (filter : Option Text),
      ((∃ cause, mostSevereFirst review filter = .error cause) ↔ UnknownLevel filter) ∧
      (∀ cause, mostSevereFirst review filter = .error cause →
        ∃ given, filter = some given ∧ cause = .severity given) ∧
      ∀ found, mostSevereFirst review filter = .ok found →
        ∃ wanted all, AsksFor filter wanted ∧ IsRanked (securityIssues review wanted) found ∧
          mostSevereFirst review none = .ok all ∧ found = all.filter (IsOfLevel wanted)) ∧
    ∀ (files : List ReviewedFile) (scope : Scope) (pull : Option PullHeading) (w : World),
      ∃ review after found, (Reviewing.sumUp files scope pull).on w = (.ok review, after) ∧
        mostSevereFirst review none = .ok found ∧ found.length = review.stats.security ∧
        (anyCritical found = true ↔ ∃ file ∈ files, ∃ issue ∈ file.analysis.issues,
          issue.category = .security ∧ issue.severity = .critical) := by
  constructor
  · intro review filter
    have read := asked filter
    rw [mostSevereFirst_eq review filter]
    generalize wantedSeverity filter = answer at read
    cases read with
    | @unknown given same unknown =>
      refine ⟨⟨fun _ => unknown, fun _ => ⟨_, rfl⟩⟩, ?_, nofun⟩
      intro cause refused
      cases refused
      exact ⟨given, same, rfl⟩
    | @known wanted asks =>
      refine ⟨⟨nofun, fun unknown => absurd unknown asks.known⟩, nofun, ?_⟩
      intro found ranked
      cases ranked
      refine ⟨wanted, _, asks, isRanked_mergeSort _, mostSevereFirst_eq review none, ?_⟩
      dsimp only
      rw [securityIssues_eq, mergeSort_filter]
  · intro files scope pull w
    obtain ⟨review, entries, summed, content, totals⟩ := Reviewing.sumUp_on files scope pull w
    have ranked := isRanked_mergeSort (securityIssues review none)
    refine ⟨review, _, _, summed, mostSevereFirst_eq review none, ?_, ?_⟩
    · rw [ranked.perm.length_eq, length_securityIssues, totals, content]
    · rw [anyCritical_iff review ranked, content]

end Verdict
end PatchReview
