import PatchReview.FileScan
import PatchReview.Proofs.Run.Course
import PatchReview.Proofs.Scan.Issues
import PatchReview.Proofs.Text.Lines

-- A file of text, scanned as it is and reviewed as an added file that is not tracked.  The two cut
-- it into lines in two ways, and one of them marks every line; the issues come out the same.
namespace PatchReview

-- What a path leads to is text, with its line ends folded.
def FileTree.HoldsText (tree : FileTree) (path : Path) (content : Text) : Prop :=
  ∃ bytes decoded, tree.read path = .ok bytes ∧ Text.decodeUtf8 bytes = .ok decoded ∧
    content = Text.normalizeNewlines decoded

namespace Git

-- The change that adds a file with this content.
def added (filename content : Text) : ChangedFile :=
  let lines := Text.boundedLines content
  { filename, status := .added, patch := Text.unlines (lines.map ('+' :: ·))
    additions := lines.length }

theorem readUntracked_on {w : World} {filename directory content : Text}
    (named : hasNull ((Path.ofText directory).join (Path.ofText filename)).text = false)
    (holds : w.files.HoldsText ((Path.ofText directory).join (Path.ofText filename)) content) :
    (readUntracked filename directory).on w = (.ok (some (added filename content)), w) := by
  obtain ⟨bytes, decoded, read, text, rfl⟩ := holds
  unfold readUntracked
  dsimp only
  rw [named, if_neg Bool.false_ne_true, Run.on_bind, Run.on_get]
  dsimp only
  rw [read]
  dsimp only
  rw [text]
  rfl

theorem patch_added_eq_nil_iff (filename content : Text) :
    (added filename content).patch = [] ↔ content = [] := by
  constructor
  · intro none
    by_contra given
    obtain ⟨line, rest, shape⟩ := List.exists_cons_of_ne_nil (Text.boundedLines_ne_nil given)
    unfold added Text.unlines Text.joinWith at none
    cases rest <;> simp [shape, List.intercalate] at none
  · rintro rfl
    rfl

end Git

namespace FileScan

open Scan

theorem reviewPath_on {w : World} {path : Path} {content : Text}
    (named : path.whole.isText = true) (holds : w.files.HoldsText path content) :
    (reviewPath path).on w = (.ok (some (reviewContent path content)), w) := by
  obtain ⟨bytes, decoded, read, text, rfl⟩ := holds
  unfold reviewPath
  rw [Run.on_bind, Run.on_get]
  dsimp only
  rw [read]
  dsimp only
  rw [text]
  dsimp only
  rw [if_pos named]
  rfl

-- An empty line at the end has no issues.
theorem secureFrom_boundedLines {content : Text} (plain : Text.OnlyLineFeeds content) :
    secureFrom 1 (Text.lines content) = secureFrom 1 (Text.boundedLines content) := by
  rcases Text.lines_boundedLines plain with same | longer
  · rw [same]
  · rw [longer, secureFrom_append, secureFrom_single, secureAt_nil, List.append_nil]

theorem issues_added {content : Text} (plain : Text.OnlyLineFeeds content) (filename : Text)
    {scanned : ChangedFile} (whole : scanned.patch = content) :
    (reviewByRules scanned).issues = (reviewByRules (Git.added filename content)).issues := by
  rw [issues_reviewByRules, issues_reviewByRules, whole]
  by_cases empty : content = []
  · rw [(Git.patch_added_eq_nil_iff filename content).mpr empty, empty]
  have marked : Text.lines (Git.added filename content).patch =
      (Text.boundedLines content).map ('+' :: ·) := by
    apply Text.lines_unlines
    · exact mt List.map_eq_nil_iff.mp (Text.boundedLines_ne_nil empty)
    · rw [List.forall_mem_map]
      intro line member
      have listed : line ∈ Text.lines content := by
        rcases Text.lines_boundedLines plain with same | longer
        · rwa [same]
        · rw [longer]
          exact List.mem_append_left _ member
      simp [Text.not_mem_of_mem_lines listed]
  rw [secureFrom_boundedLines plain, marked, secureFrom_added]

-- The scan of a file's content and the review of the file as an untracked one come to the same
-- rating and the same issues; the first two statements say where the two files come from.
theorem scan_agrees_untracked {content : Text} (plain : Text.OnlyLineFeeds content) (w : World)
    (path : Path) (filename directory : Text) :
    (path.whole.isText = true → w.files.HoldsText path content →
      (reviewPath path).on w = (.ok (some (reviewContent path content)), w)) ∧
    (Git.hasNull ((Path.ofText directory).join (Path.ofText filename)).text = false →
      w.files.HoldsText ((Path.ofText directory).join (Path.ofText filename)) content →
      (Git.readUntracked filename directory).on w =
        (.ok (some (Git.added filename content)), w)) ∧
    (reviewContent path content).analysis.rating =
      (reviewByRules (Git.added filename content)).rating ∧
    (reviewContent path content).analysis.issues =
      (reviewByRules (Git.added filename content)).issues := by
  have issues : (reviewContent path content).analysis.issues =
      (reviewByRules (Git.added filename content)).issues := issues_added plain filename rfl
  refine ⟨reviewPath_on, Git.readUntracked_on, ?_, issues⟩
  have filled : (Git.added filename content).patch.isEmpty = content.isEmpty := by
    rw [Bool.eq_iff_iff, List.isEmpty_iff, List.isEmpty_iff, Git.patch_added_eq_nil_iff]
  rw [rating_reviewByRules (Git.added filename content), filled, ← issues]
  exact rating_reviewByRules _

-- A working directory with one file, which has an empty line and ends with a line feed.
def oneFile : World where
  files := { files := [(["a.py"], Text.encodeUtf8 "eval(x)\n\nmd5\n")] }
  host := { pull number := { number := .int number }, files := [], commits := [], reviewId := 1
            failures _ := none }

theorem scan_agrees_untracked_oneFile :
    (reviewPath (.ofText "a.py")).on oneFile =
      (.ok (some (reviewContent (.ofText "a.py") "eval(x)\n\nmd5\n")), oneFile) ∧
    (Git.readUntracked "a.py" ".").on oneFile =
      (.ok (some (Git.added "a.py" "eval(x)\n\nmd5\n")), oneFile) ∧
    (reviewContent (.ofText "a.py") "eval(x)\n\nmd5\n").analysis.rating =
      (reviewByRules (Git.added "a.py" "eval(x)\n\nmd5\n")).rating ∧
    (reviewContent (.ofText "a.py") "eval(x)\n\nmd5\n").analysis.issues =
      (reviewByRules (Git.added "a.py" "eval(x)\n\nmd5\n")).issues := by
  have holds : oneFile.files.HoldsText (.ofText "a.py") "eval(x)\n\nmd5\n" :=
    ⟨Text.encodeUtf8 "eval(x)\n\nmd5\n", "eval(x)\n\nmd5\n".toList, by decide +kernel,
      by decide +kernel, by decide +kernel⟩
  have plain : Text.OnlyLineFeeds "eval(x)\n\nmd5\n" := by decide
  obtain ⟨scanned, untracked, agree⟩ :=
    scan_agrees_untracked plain oneFile (.ofText "a.py") "a.py" "."
  exact ⟨scanned (by decide +kernel) holds, untracked (by decide +kernel) holds, agree⟩

end FileScan
end PatchReview
