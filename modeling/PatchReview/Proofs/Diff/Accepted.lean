import PatchReview.Diff.Changes
import PatchReview.Proofs.Text.Lines
import PatchReview.Proofs.Text.Trim

-- Any text as a diff.  Blank space is set apart before it is read, but reading it would find no
-- file either; so what is told of a diff is told of the files that the reader finds in it.
namespace PatchReview.Diff

section
variable {line : Text} (blank : ∀ c ∈ line, Text.isBlank c = true)
include blank

theorem after?_blank {start : Text} (visible : (start.head?.any fun c => !Text.isBlank c) = true) :
    Text.after? start line = none := by
  cases start with
  | nil => cases visible
  | cons s start =>
    cases line with
    | nil => rfl
    | cons c rest =>
      have other : s ≠ c := by
        rintro rfl
        simp [blank s List.mem_cons_self] at visible
      simp [Text.after?, other]

-- With no file at hand a blank line says nothing; it may open a header block.
theorem headerStep_blank {r : Reader} (away : r.current = none) :
    r.headerStep line = .ok (if r.inHeader then r else { r.close with inHeader := true }) := by
  have compared : comparedNames? line = none := by
    rw [comparedNames?, after?_blank blank (by decide)]
    rfl
  have added : isNewFile line = false := by
    rw [isNewFile, isNumbered, after?_blank blank (by decide)]
  have deleted : isDeletedFile line = false := by
    rw [isDeletedFile, isNumbered, after?_blank blank (by decide)]
  have source : sourceName? line = none := by
    rw [sourceName?, nameAfter?, after?_blank blank (by decide)]
    rfl
  have target : targetName? line = none := by
    rw [targetName?, nameAfter?, after?_blank blank (by decide)]
    rfl
  have header : HunkHeader.ofLine? line = none := by
    rw [HunkHeader.ofLine?, after?_blank blank (by decide)]
    rfl
  have remark : Text.startsWith line noFinalNewline = false := by
    rw [Text.startsWith, after?_blank blank (by decide)]
    rfl
  have binary : binaryNames? line = none := by
    rw [binaryNames?, after?_blank blank (by decide), after?_blank blank (by decide)]
    rfl
  have other : line ≠ "GIT binary patch\n" := by
    rintro rfl
    exact absurd (blank 'G' (by decide)) (by decide)
  have hunkless : r.hasHunk = false := by
    rw [Reader.hasHunk, away]
    rfl
  unfold Reader.headerStep
  rw [compared, added, deleted, source, target, header, remark, away, hunkless]
  simp only [Option.isSome_none, Bool.false_and, Bool.false_eq_true, if_false, and_false]
  unfold Reader.otherStep
  rw [binary]
  dsimp only
  rw [if_neg other]

end

-- Blank space is a diff of nothing to the reader too.
theorem blank_reads {text : Text} (blank : ∀ c ∈ text, Text.isBlank c = true) {r : Reader}
    (away : r.current = none) (closed : r.openHunk = none) :
    ∃ next, (Text.terminatedLines text).foldlM Reader.step r = .ok next ∧ next.files = r.files ∧
      next.openHunk = none := by
  have stepped {line : Text} (blank : ∀ c ∈ line, Text.isBlank c = true) {r : Reader}
      (away : r.current = none) (closed : r.openHunk = none) :
      ∃ next, r.step line = .ok next ∧ next.current = none ∧ next.openHunk = none ∧
        next.files = r.files := by
    unfold Reader.step
    rw [closed]
    dsimp only
    rw [headerStep_blank blank away]
    refine ⟨_, rfl, ?_⟩
    cases r.inHeader with
    | true => exact ⟨away, closed, rfl⟩
    | false => exact ⟨rfl, closed, by simp [Reader.files, Reader.close, away]⟩
  induction text using Text.line_induction generalizing r with
  | single line inside =>
    rw [Text.terminatedLines_single inside]
    cases line with
    | nil => exact ⟨r, rfl, rfl, closed⟩
    | cons c rest =>
      obtain ⟨next, step, -, done, files⟩ := stepped blank away closed
      exact ⟨next, by simp [step, bind, Except.bind, pure, Except.pure], files, done⟩
  | more line rest inside ih =>
    have own : ∀ c ∈ line ++ ['\n'], Text.isBlank c = true := by
      intro c member
      rcases List.mem_append.mp member with inner | feed
      · exact blank c (by simp [inner])
      · exact blank c (by simp [List.mem_singleton.mp feed])
    obtain ⟨middle, step, nothing, between, files⟩ := stepped own away closed
    obtain ⟨next, later, all, done⟩ :=
      ih (fun c member => blank c (by simp [member])) nothing between
    refine ⟨next, ?_, all.trans files, done⟩
    rw [Text.terminatedLines_append inside, List.foldlM_cons, step]
    exact later

theorem changedFiles_eq (diff : Text) :
    changedFiles diff = (read diff).map (·.map FilePatch.toChangedFile) := by
  unfold changedFiles
  split
  · rename_i empty
    have blank := Text.trim_eq_nil_iff.mp (List.isEmpty_iff.mp empty)
    obtain ⟨next, reads, files, done⟩ := blank_reads blank (r := {}) rfl rfl
    have nothing : next.finish = .ok [] := by
      unfold Reader.finish
      rw [done, files]
      rfl
    unfold read readLines
    rw [reads]
    change _ = next.finish.map _
    rw [nothing]
    rfl
  · rfl

theorem changedFiles_ok {diff : Text} {changes : List ChangedFile} :
    changedFiles diff = .ok changes ↔
      ∃ files, read diff = .ok files ∧ changes = files.map FilePatch.toChangedFile := by
  rw [changedFiles_eq]
  cases read diff with
  | error cause => simp [Except.map]
  | ok files => simp [Except.map, eq_comm]

end PatchReview.Diff
