import Mathlib.Data.List.Forall2
import PatchReview.Proofs.Diff.Accepted

-- Which files of a diff are said to be renamed.  The report shows names without the `a/` or `b/` in
-- front, but the names that are compared have lost their first two characters, whatever these are.
namespace PatchReview.Diff

def IsSided (name : Text) : Prop := ∃ rest, name = 'a' :: '/' :: rest ∨ name = 'b' :: '/' :: rest

section
variable {name : Text}

theorem dropSide_sided (sided : IsSided name) : dropSide name = name.drop 2 := by
  rcases sided with ⟨rest, rfl | rfl⟩ <;> rfl

theorem dropSide_bare (bare : ¬IsSided name) : dropSide name = name := by
  unfold dropSide
  split
  · exact absurd ⟨_, .inl rfl⟩ bare
  · exact absurd ⟨_, .inr rfl⟩ bare
  · rfl

theorem drop_ne_self (filled : name ≠ []) : name.drop 2 ≠ name := by
  intro same
  have fewer := congrArg List.length same
  have positive := List.length_pos_iff.mpr filled
  rw [List.length_drop] at fewer
  omega

end

-- A name with a prefix and one without that are alike in one of the two ways only.
structure HalfBare (placed name : Text) : Prop where
  sided : IsSided placed
  bare : ¬IsSided name
  filled : name ≠ []
  alike : dropSide placed = name ∨ dropSide placed = name.drop 2

-- Pairs of names for which it matters that the two characters belong to a bare name itself.
inductive Misleading (source target : Text) : Prop
  | bare : ¬IsSided source → ¬IsSided target → source ≠ target →
      source.drop 2 = target.drop 2 → Misleading source target
  | bareTarget : HalfBare source target → Misleading source target
  | bareSource : HalfBare target source → Misleading source target

section
variable {source target : Text}

theorem HalfBare.compared (half : HalfBare source target) :
    source.drop 2 = target.drop 2 ↔ dropSide source ≠ dropSide target := by
  have shorter := drop_ne_self half.filled
  rw [← dropSide_sided half.sided, dropSide_bare half.bare]
  rcases half.alike with whole | cut
  · rw [whole]
    exact ⟨fun same => absurd same.symm shorter, fun other => absurd rfl other⟩
  · rw [cut]
    exact ⟨fun _ => shorter, fun _ => rfl⟩

theorem compared_unalike (atSource : IsSided source) (atTarget : ¬IsSided target)
    (fair : ¬HalfBare source target) :
    source.drop 2 = target.drop 2 ↔ dropSide source = dropSide target := by
  rw [← dropSide_sided atSource, dropSide_bare atTarget]
  by_cases empty : target = []
  · rw [empty]
    rfl
  · exact ⟨fun cut => absurd ⟨atSource, atTarget, empty, .inr cut⟩ fair,
      fun whole => absurd ⟨atSource, atTarget, empty, .inl whole⟩ fair⟩

theorem sided_fair (atSource : IsSided source) (atTarget : IsSided target) :
    ¬Misleading source target := by
  intro misled
  cases misled with
  | bare atNeither _ _ _ => exact atNeither atSource
  | bareTarget half => exact half.bare atTarget
  | bareSource half => exact half.bare atSource

theorem compared_fair (fair : ¬Misleading source target) :
    source.drop 2 = target.drop 2 ↔ dropSide source = dropSide target := by
  by_cases atSource : IsSided source
  · by_cases atTarget : IsSided target
    · rw [dropSide_sided atSource, dropSide_sided atTarget]
    · exact compared_unalike atSource atTarget fun half => fair (.bareTarget half)
  · by_cases atTarget : IsSided target
    · have compared := compared_unalike atTarget atSource fun half => fair (.bareSource half)
      exact eq_comm.trans (compared.trans eq_comm)
    · rw [dropSide_bare atSource, dropSide_bare atTarget]
      constructor
      · intro cut
        by_contra other
        exact fair (.bare atSource atTarget other cut)
      · intro same
        rw [same]

theorem compared_misled (misled : Misleading source target) :
    source.drop 2 = target.drop 2 ↔ dropSide source ≠ dropSide target := by
  cases misled with
  | bare atSource atTarget other cut =>
    rw [dropSide_bare atSource, dropSide_bare atTarget]
    exact ⟨fun _ => other, fun _ => cut⟩
  | bareTarget half => exact half.compared
  | bareSource half => exact eq_comm.trans (half.compared.trans ne_comm)

end

-- The report tells a file's move from its names without `a/` and `b/`.
structure TellsMove (file : FilePatch) (change : ChangedFile) : Prop where
  renamed : change.status = .renamed ↔ dropSide file.source ≠ dropSide file.target
  filename : change.filename = dropSide file.target
  previous : change.status = .renamed →
    change.previousFilename = some (dropSide file.source) ∧ dropSide file.source ≠ change.filename
  stayed : change.status ≠ .renamed → change.previousFilename = none

-- A move is not reported, and a file that stays is said to have had the name that it has.
structure MissesMove (file : FilePatch) (change : ChangedFile) : Prop where
  renamed : change.status = .renamed ↔ dropSide file.source = dropSide file.target
  filename : change.filename = dropSide file.target
  previous : change.status = .renamed → change.previousFilename = some change.filename
  stayed : change.status ≠ .renamed → change.previousFilename = none

namespace FilePatch
variable {f : FilePatch}

theorem status_remains (present : f.status ≠ .added) (remains : f.status ≠ .deleted) :
    f.target ≠ nowhere ∧ (f.status = .renamed ↔ f.source.drop 2 ≠ f.target.drop 2) := by
  unfold status at present remains ⊢
  cases added : f.isAdded with
  | true => simp [added] at present
  | false =>
    cases removed : f.isRemoved with
    | true => simp [added, removed] at remains
    | false =>
      have source : f.source ≠ nowhere := of_decide_eq_false (Bool.or_eq_false_iff.mp added).1
      have target : f.target ≠ nowhere := of_decide_eq_false (Bool.or_eq_false_iff.mp removed).1
      refine ⟨target, ?_⟩
      simp [isRename, source, target]

theorem toChangedFile_previous :
    (f.status = .renamed → f.toChangedFile.previousFilename = some (dropSide f.source)) ∧
      (f.status ≠ .renamed → f.toChangedFile.previousFilename = none) :=
  ⟨fun renamed => if_pos renamed, fun other => if_neg other⟩

theorem toChangedFile_moved (present : f.status ≠ .added) (remains : f.status ≠ .deleted) :
    (¬Misleading f.source f.target → TellsMove f f.toChangedFile) ∧
      (Misleading f.source f.target → MissesMove f f.toChangedFile) := by
  obtain ⟨target, renamed⟩ := status_remains present remains
  obtain ⟨previous, stayed⟩ := toChangedFile_previous (f := f)
  have filename : f.toChangedFile.filename = dropSide f.target := if_neg target
  constructor
  · intro fair
    have moved : f.status = .renamed ↔ dropSide f.source ≠ dropSide f.target :=
      renamed.trans (compared_fair fair).not
    refine ⟨moved, filename, fun given => ⟨previous given, ?_⟩, stayed⟩
    rw [filename]
    exact moved.mp given
  · intro misled
    have same : f.status = .renamed ↔ dropSide f.source = dropSide f.target :=
      renamed.trans ((compared_misled misled).not.trans not_not)
    refine ⟨same, filename, fun given => ?_, stayed⟩
    rw [previous given, filename, same.mp given]

end FilePatch

-- Every file of a diff that is neither added nor deleted is told to have moved exactly if it did,
-- unless its names mislead; then it is the other way round.
theorem moves_told {diff : Text} {changes : List ChangedFile}
    (accepted : changedFiles diff = .ok changes) :
    ∃ files, read diff = .ok files ∧
      List.Forall₂ (fun (file : FilePatch) (change : ChangedFile) =>
        change = file.toChangedFile ∧ (change.status ≠ .added → change.status ≠ .deleted →
          (¬Misleading file.source file.target → TellsMove file change) ∧
            (Misleading file.source file.target → MissesMove file change)))
        files changes := by
  obtain ⟨files, reads, rfl⟩ := changedFiles_ok.mp accepted
  refine ⟨files, reads, List.forall₂_map_right_iff.mpr (List.forall₂_same.mpr ?_)⟩
  intro file _
  exact ⟨rfl, FilePatch.toChangedFile_moved⟩

-- A move with the prefixes that are usual, one between bare names, and a file that has a prefix on
-- one side only.
theorem moves_told_mixed :
    let diff : Text := "--- a/x.py\n+++ b/y.py\n--- ab.py\n+++ cd.py\n--- a/z.py\n+++ z.py\n"
    let moved : ChangedFile :=
      { filename := "y.py", status := .renamed, previousFilename := some "x.py".toList }
    let missed : ChangedFile := { filename := "cd.py" }
    let stayed : ChangedFile :=
      { filename := "z.py", status := .renamed, previousFilename := some "z.py".toList }
    changedFiles diff = .ok [moved, missed, stayed] ∧
      TellsMove ⟨"a/x.py", "b/y.py", []⟩ moved ∧ MissesMove ⟨"ab.py", "cd.py", []⟩ missed ∧
        MissesMove ⟨"a/z.py", "z.py", []⟩ stayed := by
  intro diff moved missed stayed
  have accepted : changedFiles diff = .ok [moved, missed, stayed] := by decide +kernel
  have found : read diff = .ok
      [⟨"a/x.py", "b/y.py", []⟩, ⟨"ab.py", "cd.py", []⟩, ⟨"a/z.py", "z.py", []⟩] := by
    decide +kernel
  have bare {c d : Char} (slashless : d ≠ '/') (rest : Text) : ¬IsSided (c :: d :: rest) := by
    intro given
    obtain ⟨other, sided⟩ := given
    simp [slashless] at sided
  obtain ⟨files, reads, told⟩ := moves_told accepted
  obtain rfl := Except.ok.inj (found.symm.trans reads)
  obtain ⟨⟨-, first⟩, rest⟩ := List.forall₂_cons.mp told
  obtain ⟨⟨-, second⟩, rest⟩ := List.forall₂_cons.mp rest
  obtain ⟨⟨-, third⟩, -⟩ := List.forall₂_cons.mp rest
  refine ⟨accepted, ?_, ?_, ?_⟩
  · exact (first (by decide) (by decide)).1 (sided_fair ⟨_, .inl rfl⟩ ⟨_, .inr rfl⟩)
  · exact (second (by decide) (by decide)).2
      (.bare (bare (by decide) _) (bare (by decide) _) (by decide) (by decide))
  · exact (third (by decide) (by decide)).2
      (.bareTarget ⟨⟨_, .inl rfl⟩, bare (by decide) _, by decide, .inl (by decide)⟩)

end PatchReview.Diff
