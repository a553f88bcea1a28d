import Mathlib.Data.List.TakeWhile
import PatchReview.Proofs.Diff.ReadLayout

-- What is made of the files that were read: for each entry of the layout the file that it is about.
namespace PatchReview.Diff
namespace Entry

section
variable {e : Entry}

-- Counting the lines of a kind in the hunks is counting edits.
theorem count_filePatch (e : Entry) {kind : LineKind} {p : Edit → Bool}
    (same : ∀ edit : Edit, decide (edit.line.kind = kind) = p edit) :
    e.filePatch.count kind = e.edits.countP p := by
  have block (b : Block) : Hunk.count kind b.hunk = b.edits.countP p := by
    rw [Hunk.count, ← List.countP_eq_length_filter, Block.hunk, Block.lines, List.countP_map]
    exact congrArg (List.countP · b.edits) (funext same)
  rw [edits, List.countP_flatMap, FilePatch.count, filePatch, hunks, List.map_map]
  exact congrArg (fun count => (e.blocks.map count).sum) (funext block)

theorem hunks_written (e : Entry) :
    e.hunks.flatMap Hunk.written =
      (e.blocks.flatMap Block.rows).flatMap fun row => row ++ ['\n'] := by
  have edit (edit : Edit) : edit.line.written = edit.row ++ ['\n'] := by cases edit <;> rfl
  have full (r : Range) : r.spelled false = r.written := if_neg (by simp)
  have block (b : Block) : b.hunk.written = b.rows.flatMap fun row => row ++ ['\n'] := by
    have header : b.hunk.header = { b with brief := false }.header ++ ['\n'] := by
      unfold Hunk.header Block.header
      rw [full, full]
      rfl
    rw [Block.rows, List.flatMap_cons, List.flatMap_map, Hunk.written, header, Block.hunk,
      Block.lines, List.flatMap_map]
    exact congrArg (fun f => _ ++ b.edits.flatMap f) (funext edit)
  rw [hunks, List.flatMap_map, List.flatMap_assoc]
  exact congrArg (e.blocks.flatMap ·) (funext block)

theorem rows_clear (valid : e.Valid) {row : Text} (member : row ∈ e.blocks.flatMap Block.rows) :
    row ≠ [] ∧ '\n' ∉ row := by
  obtain ⟨b, there, member⟩ := List.mem_flatMap.mp member
  have own := valid.blocks b there
  rcases List.mem_cons.mp member with rfl | member
  · refine ⟨?_, not_mem_header own.heading⟩
    intro empty
    cases empty
  · obtain ⟨edit, among, rfl⟩ := List.mem_map.mp member
    have inside := own.inLine edit among
    cases edit with
    | keep content | add content | remove content =>
      simpa [Edit.row, Edit.content] using inside

theorem patchText_filePatch (valid : e.Valid) :
    e.filePatch.patchText = Text.unlines (e.blocks.flatMap Block.rows) := by
  unfold FilePatch.patchText
  rw [filePatch, hunks_written, Text.dropEnd_rows fun row member => rows_clear valid member]

-- No hunk starts at line zero of a side on which the file exists.
theorem onlyHunk_starts (side : Hunk → Range) (start : Block → Nat)
    (said : ∀ b : Block, (side b.hunk).start = start b)
    (positive : ∀ b ∈ e.blocks, 0 < start b) :
    (match e.filePatch.hunks with
      | [h] => decide (side h = ⟨0, 0⟩)
      | _ => false) = false := by
  change (match e.blocks.map Block.hunk with
      | [h] => decide (side h = ⟨0, 0⟩)
      | _ => false) = false
  match shape : e.blocks with
  | [] => rfl
  | [b] =>
    have later := positive b (by rw [shape]; simp)
    have other : side b.hunk ≠ ⟨0, 0⟩ := by
      intro same
      have zero := said b
      rw [same] at zero
      dsimp only at zero
      omega
    simpa using other
  | _ :: _ :: _ => rfl

theorem placed_ne_nowhere {side : Char} (other : side ≠ '/') (name : Text) :
    side :: '/' :: name ≠ nowhere := by
  intro same
  have first : some side = some '/' := congrArg List.head? same
  exact other (Option.some.inj first)

theorem isAdded_filePatch (present : e.change.sourceSide ≠ nowhere)
    (positive : ∀ b ∈ e.blocks, 0 < b.sourceStart) : e.filePatch.isAdded = false := by
  have only := onlyHunk_starts Hunk.source Block.sourceStart (fun _ => rfl) positive
  unfold FilePatch.isAdded
  exact Bool.or_eq_false_iff.mpr ⟨decide_eq_false present, only⟩

theorem isRemoved_filePatch (present : e.change.targetSide ≠ nowhere)
    (positive : ∀ b ∈ e.blocks, 0 < b.targetStart) : e.filePatch.isRemoved = false := by
  have only := onlyHunk_starts Hunk.target Block.targetStart (fun _ => rfl) positive
  unfold FilePatch.isRemoved
  exact Bool.or_eq_false_iff.mpr ⟨decide_eq_false present, only⟩

theorem status_filePatch (valid : e.Valid) : e.filePatch.status = e.change.status := by
  have sourceSide (name : Text) : 'a' :: '/' :: name ≠ nowhere :=
    placed_ne_nowhere (by decide) name
  have targetSide (name : Text) : 'b' :: '/' :: name ≠ nowhere :=
    placed_ne_nowhere (by decide) name
  obtain ⟨change, blocks⟩ := e
  have numbers := valid.numbers
  have named := valid.named
  unfold FilePatch.status
  cases change with
  | modified name =>
    have added : FilePatch.isAdded (filePatch ⟨.modified name, blocks⟩) = false :=
      isAdded_filePatch (sourceSide name) fun b member => (numbers b member).1
    have removed : FilePatch.isRemoved (filePatch ⟨.modified name, blocks⟩) = false :=
      isRemoved_filePatch (targetSide name) fun b member => (numbers b member).2
    have moved : FilePatch.isRename (filePatch ⟨.modified name, blocks⟩) = false := by
      simp [FilePatch.isRename, filePatch, Change.sourceSide, Change.targetSide]
    rw [added, removed, moved]
    rfl
  | added name =>
    have added : FilePatch.isAdded (filePatch ⟨.added name, blocks⟩) = true := by
      simp [FilePatch.isAdded, filePatch, Change.sourceSide]
    rw [added]
    rfl
  | deleted name =>
    have added : FilePatch.isAdded (filePatch ⟨.deleted name, blocks⟩) = false :=
      isAdded_filePatch (sourceSide name) numbers
    have removed : FilePatch.isRemoved (filePatch ⟨.deleted name, blocks⟩) = true := by
      simp [FilePatch.isRemoved, filePatch, Change.targetSide]
    rw [added, removed]
    rfl
  | renamed source target =>
    have added : FilePatch.isAdded (filePatch ⟨.renamed source target, blocks⟩) = false :=
      isAdded_filePatch (sourceSide source) fun b member => (numbers b member).1
    have removed : FilePatch.isRemoved (filePatch ⟨.renamed source target, blocks⟩) = false :=
      isRemoved_filePatch (targetSide target) fun b member => (numbers b member).2
    have moved : FilePatch.isRename (filePatch ⟨.renamed source target, blocks⟩) = true := by
      simpa [FilePatch.isRename, filePatch, Change.sourceSide, Change.targetSide, sourceSide source,
        targetSide target] using named.2.2
    rw [added, removed, moved]
    rfl

theorem filename_filePatch (e : Entry) :
    (if e.filePatch.target = nowhere then dropSide e.filePatch.source
      else dropSide e.filePatch.target) = e.change.target := by
  have targetSide (name : Text) : 'b' :: '/' :: name ≠ nowhere :=
    placed_ne_nowhere (by decide) name
  obtain ⟨change, blocks⟩ := e
  cases change with
  | deleted name => rfl
  | modified name | added name | renamed _ name => exact if_neg (targetSide name)

theorem toChangedFile_filePatch (valid : e.Valid) : e.filePatch.toChangedFile = e.changedFile := by
  have additions : e.filePatch.count .added = e.edits.countP Edit.isAdd :=
    count_filePatch e fun edit => by cases edit <;> rfl
  have deletions : e.filePatch.count .removed = e.edits.countP Edit.isRemove :=
    count_filePatch e fun edit => by cases edit <;> rfl
  have previous : (if e.change.status = .renamed then some (dropSide e.filePatch.source)
      else none) = e.change.previous? := by
    obtain ⟨change, blocks⟩ := e
    cases change <;> rfl
  unfold FilePatch.toChangedFile
  rw [filename_filePatch, status_filePatch valid, patchText_filePatch valid, additions, deletions,
    previous]
  rfl

end
end Entry

theorem trim_ne_nil {c : Char} (visible : Text.isBlank c = false) (text : Text) :
    Text.trim (c :: text) ≠ [] := by
  have start : (c :: text).dropWhile Text.isBlank = c :: text := by simp [visible]
  unfold Text.trim Text.trimWhile Text.dropEndWhile
  rw [start]
  intro empty
  have blank := List.dropWhile_eq_nil_iff.mp (List.reverse_eq_nil_iff.mp empty) c (by simp)
  rw [visible] at blank
  cases blank

theorem changedFiles_layout (entries : List Entry) (valid : ∀ e ∈ entries, e.Valid) :
    changedFiles (layout entries) = .ok (entries.map Entry.changedFile) := by
  cases entries with
  | nil => rfl
  | cons e rest =>
    have said : (Text.trim (layout (e :: rest))).isEmpty = false := by
      rw [List.isEmpty_eq_false_iff]
      exact trim_ne_nil (by decide) _
    have files : ((e :: rest).map Entry.filePatch).map FilePatch.toChangedFile =
        (e :: rest).map Entry.changedFile := by
      rw [List.map_map]
      apply List.map_congr_left
      intro entry member
      exact Entry.toChangedFile_filePatch (valid entry member)
    unfold changedFiles
    rw [said, read_layout valid, ← files]
    rfl

-- Lines of a hunk that look like headers, in a file that moves, before a file that goes.
theorem changedFiles_headerlike :
    let entries : List Entry :=
      [⟨.renamed "a.py" "b.py",
        [{ sourceStart := 1, targetStart := 1
           edits := [.remove "-- a/a.py", .add "++ b/b.py", .keep "@@ -1,1 +1,1 @@"] },
          { sourceStart := 9, targetStart := 9, heading := "def f():", brief := true
            edits := [.keep "diff --git a/x b/x", .add ""] }]⟩,
        ⟨.deleted "old.txt", [⟨1, 0, [], [.remove "bye"], true⟩]⟩]
    (∀ e ∈ entries, e.Valid) ∧
      changedFiles (layout entries) = .ok
        [{ filename := "b.py", status := .renamed, additions := 2, deletions := 1
           previousFilename := some "a.py".toList
           patch := "@@ -1,2 +1,2 @@\n--- a/a.py\n+++ b/b.py\n @@ -1,1 +1,1 @@\n" ++
            "@@ -9,1 +9,2 @@ def f():\n diff --git a/x b/x\n+" },
          { filename := "old.txt", status := .deleted, deletions := 1
            patch := "@@ -1,1 +0,0 @@\n-bye" }] := by
  intro entries
  have short {n : Nat} (small : n < 10) : n < 10 ^ Text.digitLimit :=
    Nat.lt_of_lt_of_le small (Nat.le_self_pow (by decide) 10)
  have blocks : ∀ e ∈ entries, ∀ b ∈ e.blocks, b.Valid := by
    intro e member b there
    have one : ∀ e ∈ entries, ∀ b ∈ e.blocks, ∀ n ∈ b.numbers, n < 10 := by decide
    have lines : ∀ e ∈ entries, ∀ b ∈ e.blocks, '\n' ∉ b.heading ∧ b.edits ≠ [] ∧
        ∀ edit ∈ b.edits, '\n' ∉ edit.content := by decide
    obtain ⟨heading, filled, inLine⟩ := lines e member b there
    exact ⟨heading, filled, inLine, fun n among => short (one e member b there n among)⟩
  have valid : ∀ e ∈ entries, e.Valid := by
    intro e member
    have own := blocks e member
    rcases List.mem_pair.mp member with rfl | rfl
    · have source : IsName "a.py" := by decide
      have target : IsName "b.py" := by decide
      refine ⟨⟨source, target, by decide⟩, by decide, own, ?_⟩
      intro b there
      rcases List.mem_pair.mp there with rfl | rfl
      · exact ⟨by decide, by decide⟩
      · exact ⟨by decide, by decide⟩
    · have name : IsName "old.txt" := by decide
      refine ⟨name, by decide, own, ?_⟩
      intro b there
      rcases List.mem_singleton.mp there with rfl
      exact Nat.one_pos
  exact ⟨valid, (changedFiles_layout entries valid).trans rfl⟩

end PatchReview.Diff
