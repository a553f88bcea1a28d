import PatchReview.Proofs.Diff.Counted
import PatchReview.Proofs.Git.Sources

-- What a changed file says of its patch.  Whether it comes from a diff or from a file that is not
-- tracked, it says how many lines of the patch start with a plus and how many with a dash, and the
-- patch does not end in a line feed.
namespace PatchReview

namespace Text

theorem boundedLines_clear {text line : Text} (member : line ∈ boundedLines text) :
    '\n' ∉ line := by
  fun_induction boundedLines text generalizing line with
  | case1 => cases member
  | case2 rest ih =>
    rcases List.mem_cons.mp member with rfl | later
    · exact List.not_mem_nil
    · exact ih later
  | case3 c rest _ ends ih =>
    rcases List.mem_cons.mp member with rfl | later
    · exact List.not_mem_nil
    · exact ih later
  | case4 c rest _ inner alone ih =>
    have other : c ≠ '\n' := fun same => inner (same ▸ rfl)
    simpa [List.mem_singleton.mp member] using other.symm
  | case5 c rest _ inner first more shape ih =>
    have other : c ≠ '\n' := fun same => inner (same ▸ rfl)
    rw [shape] at ih
    rcases List.mem_cons.mp member with rfl | later
    · simp [other.symm, ih List.mem_cons_self]
    · exact ih (List.mem_cons_of_mem _ later)

end Text

-- The counts are those of the lines by their first character, and no line feed is last.
structure ChangedFile.Counted (file : ChangedFile) : Prop where
  additions : file.additions = Text.markedLines '+' file.patch
  deletions : file.deletions = Text.markedLines '-' file.patch
  last : ∀ c ∈ file.patch.getLast?, c ≠ '\n'

theorem Diff.FilePatch.Counted.changedFile {f : Diff.FilePatch} (counted : f.Counted) :
    f.toChangedFile.Counted where
  additions := congrArg Nat.cast (counted .added '+' rfl).symm
  deletions := congrArg Nat.cast (counted .removed '-' rfl).symm
  last := by
    intro c last
    simpa using Text.last_dropEndWhile c last

namespace Git

-- Every row of an added file has its plus in front.
theorem added_counted (filename content : Text) : (added filename content).Counted := by
  let rows := (Text.boundedLines content).map ('+' :: ·)
  have patch : (added filename content).patch = Text.unlines rows := rfl
  have clear : ∀ row ∈ rows, row ≠ [] ∧ '\n' ∉ row := by
    rw [List.forall_mem_map]
    intro line member
    simp [Text.boundedLines_clear member]
  have count (mark : Char) : Text.markedLines mark (Text.unlines rows) =
      if mark = '+' then (Text.boundedLines content).length else 0 := by
    cases given : Text.boundedLines content with
    | nil =>
      simp only [rows, given, List.map_nil, List.length_nil, ite_self]
      exact Text.markedLines_nil mark
    | cons line rest =>
      have filled : rows ≠ [] := by simp [rows, given]
      rw [Text.markedLines_joined mark filled fun row member => (clear row member).2,
        List.countP_map, given]
      by_cases plus : mark = '+'
      · simp [plus, Function.comp_def]
      · simp [plus, Ne.symm plus, Function.comp_def]
  refine ⟨?_, ?_, ?_⟩
  · rw [patch, count]
    rfl
  · rw [patch, count]
    rfl
  · rw [patch, ← Text.dropEnd_rows clear]
    intro c last
    simpa using Text.last_dropEndWhile c last

theorem readUntracked_counted {w after : World} {path directory : Text} {file : ChangedFile}
    (ran : (readUntracked path directory).on w = (.ok (some file), after)) : file.Counted := by
  obtain ⟨outcome, entries, same, decided⟩ := readUntracked_looks directory path w
  rw [ran] at same
  obtain ⟨ended, -⟩ := Prod.mk.inj same
  rw [← ended] at decided
  generalize shape : (w.files.textAt? (placeOf directory path)).map (added path) = given at decided
  cases decided
  obtain ⟨content, -, rfl⟩ := Option.map_eq_some_iff.mp shape
  exact added_counted path content

-- The counts of every file that comes of a diff or is not tracked are those of its patch, and only
-- a file of a diff without any hunk has an empty patch.
theorem counts_agree :
    (∀ diff changes, '\r' ∉ diff → Diff.changedFiles diff = .ok changes →
      ∃ files, Diff.read diff = .ok files ∧
        List.Forall₂ (fun (file : Diff.FilePatch) (change : ChangedFile) =>
          change = file.toChangedFile ∧ change.Counted ∧ (change.patch = [] ↔ file.hunks = []))
          files changes) ∧
    ∀ (w after : World) (path directory : Text) (change : ChangedFile),
      (readUntracked path directory).on w = (.ok (some change), after) → change.Counted := by
  refine ⟨?_, fun w after path directory change ran => readUntracked_counted ran⟩
  intro diff changes clear accepted
  obtain ⟨files, reads, rfl⟩ := Diff.changedFiles_ok.mp accepted
  refine ⟨files, reads, List.forall₂_map_right_iff.mpr (List.forall₂_same.mpr ?_)⟩
  intro file member
  exact ⟨rfl, (Diff.read_counted clear reads file member).changedFile,
    Diff.FilePatch.patchText_eq_nil_iff⟩

-- Lines that look like headers, the last without a line feed; and a file with an empty line.
theorem counts_agree_cut :
    let diff : Text := "--- a/x\n+++ b/x\n@@ -1,2 +1 @@\n--- y\n-\n+++ z"
    let change : ChangedFile :=
      { filename := "x", patch := "@@ -1,2 +1,1 @@\n--- y\n-\n+++ z", additions := 1,
        deletions := 2 }
    let untracked : ChangedFile :=
      { filename := "a.py", status := .added, patch := "+eval(x)\n+\n+md5", additions := 3 }
    '\r' ∉ diff ∧ Diff.changedFiles diff = .ok [change] ∧ change.Counted ∧
      (readUntracked "a.py" ".").on FileScan.oneFile = (.ok (some untracked), FileScan.oneFile) ∧
      untracked.Counted := by
  intro diff change untracked
  have clear : '\r' ∉ diff := by decide
  have accepted : Diff.changedFiles diff = .ok [change] := by decide +kernel
  have ran : (readUntracked "a.py" ".").on FileScan.oneFile =
      (.ok (some untracked), FileScan.oneFile) := by
    have holds : FileScan.oneFile.files.HoldsText (.ofText "a.py") "eval(x)\n\nmd5\n" :=
      ⟨Text.encodeUtf8 "eval(x)\n\nmd5\n", "eval(x)\n\nmd5\n".toList, by decide +kernel,
        by decide +kernel, by decide +kernel⟩
    have made : added "a.py" "eval(x)\n\nmd5\n" = untracked := by decide +kernel
    exact made ▸ readUntracked_on (by decide +kernel) holds
  obtain ⟨files, -, told⟩ := counts_agree.1 diff [change] clear accepted
  obtain ⟨file, -, -, counted, -⟩ := (forall₂_partners told).2 change List.mem_cons_self
  exact ⟨clear, accepted, counted, ran, counts_agree.2 _ _ "a.py" "." untracked ran⟩

end Git
end PatchReview
