import PatchReview.Proofs.Diff.Header
import PatchReview.Proofs.Text.Lines

-- Reading undoes the layout.  Every line is read in the state that the lines before it left, and
-- the lines of a hunk are counted, never looked at: the hunk ends where both counts of its header
-- are reached, which is after its last line and not before.
namespace PatchReview.Diff

theorem isShort_iff {o : OpenHunk} : o.isShort = true ↔
    o.sourceRead < o.header.source.length ∨ o.targetRead < o.header.target.length := by
  simp [OpenHunk.isShort]

theorem isLong_iff {o : OpenHunk} : o.isLong = true ↔
    o.header.source.length < o.sourceRead ∨ o.header.target.length < o.targetRead := by
  simp [OpenHunk.isLong]

-- Every line counts on at least one side.
theorem edit_counts (edit : Edit) :
    1 ≤ edit.line.kind.inSource + edit.line.kind.inTarget := by
  cases edit with
  | keep content | add content | remove content =>
    simp [Edit.line, LineKind.inSource, LineKind.inTarget]

namespace Reader

-- The text leads from `r` to `next`, whatever stands behind it.
def Reads (r : Reader) (text : Text) (next : Reader) : Prop :=
  ∀ rest, (Text.terminatedLines (text ++ rest)).foldlM step r =
    (Text.terminatedLines rest).foldlM step next

section
variable {r next last : Reader}

theorem Reads.nil (r : Reader) : r.Reads [] r := fun _ => rfl

theorem Reads.trans {first second : Text} (one : r.Reads first next)
    (two : next.Reads second last) : r.Reads (first ++ second) last := by
  intro rest
  rw [List.append_assoc, one, two]

theorem reads_line {line : Text} (inside : '\n' ∉ line)
    (stepped : r.step (line ++ "\n") = .ok next) : r.Reads (line ++ "\n") next := by
  intro rest
  have text : line ++ "\n" ++ rest = line ++ '\n' :: rest := List.append_assoc ..
  have first : (line ++ ['\n'] : Text) = line ++ "\n" := rfl
  rw [text, Text.terminatedLines_append inside, List.foldlM_cons, first, stepped]
  rfl

end

section
variable {files : List FilePatch} {f : FilePatch} {inHeader : Bool} {pending : Option Text}

theorem step_source {c : Change} (named : c.Named) :
    step ⟨files, some f, true, pending, none⟩ ("--- " ++ c.sourceSide ++ "\n") =
      .ok ⟨files, some f, true, some c.sourceSide, none⟩ := by
  have other : comparedNames? ("--- " ++ c.sourceSide ++ "\n") = none := rfl
  have kept : isNewFile ("--- " ++ c.sourceSide ++ "\n") = false ∧
      isDeletedFile ("--- " ++ c.sourceSide ++ "\n") = false ∧
      isModeChange ("--- " ++ c.sourceSide ++ "\n") = false := ⟨rfl, rfl, rfl⟩
  unfold step
  dsimp only
  unfold headerStep
  rw [other, kept.1, kept.2.1, kept.2.2, sourceName?_line named]
  rfl

theorem step_target {c : Change} (named : c.Named) (same : f.target = c.targetSide) :
    step ⟨files, some f, true, pending, none⟩ ("+++ " ++ c.targetSide ++ "\n") =
      .ok ⟨files, some f, true, pending, none⟩ := by
  have other : comparedNames? ("+++ " ++ c.targetSide ++ "\n") = none := rfl
  have kept : isNewFile ("+++ " ++ c.targetSide ++ "\n") = false ∧
      isDeletedFile ("+++ " ++ c.targetSide ++ "\n") = false ∧
      isModeChange ("+++ " ++ c.targetSide ++ "\n") = false := ⟨rfl, rfl, rfl⟩
  have source : sourceName? ("+++ " ++ c.targetSide ++ "\n") = none := rfl
  unfold step
  dsimp only
  unfold headerStep
  rw [other, kept.1, kept.2.1, kept.2.2, source, targetName?_line named]
  simp [targetStep, same]

theorem mode_reads (c : Change) :
    Reads ⟨files, some ⟨"a/" ++ c.source, "b/" ++ c.target, []⟩, true, pending, none⟩ c.mode
      ⟨files, some ⟨c.sourceSide, c.targetSide, []⟩, true, pending, none⟩ := by
  cases c with
  | modified name => exact .nil _
  | renamed source target => exact .nil _
  | added name =>
    have line : Change.mode (.added name) = ("new file mode 100644" : Text) ++ "\n" := rfl
    rw [line]
    exact reads_line (by decide) rfl
  | deleted name =>
    have line : Change.mode (.deleted name) = ("deleted file mode 100644" : Text) ++ "\n" := rfl
    rw [line]
    exact reads_line (by decide) rfl

theorem change_reads {c : Change} (named : c.Named) {r : Reader} (closed : r.openHunk = none) :
    r.Reads c.written
      ⟨r.files, some ⟨c.sourceSide, c.targetSide, []⟩, true, some c.sourceSide, none⟩ := by
  obtain ⟨source, target⟩ := named.names
  obtain ⟨left, right⟩ := named.sides
  have feed : Text.isBlank '\n' = true := by decide
  have compared : r.Reads c.compared
      ⟨r.files, some ⟨"a/" ++ c.source, "b/" ++ c.target, []⟩, true,
        some ("a/" ++ c.source), none⟩ := by
    have line : c.compared = ("diff --git a/" ++ c.source ++ " b/" ++ c.target) ++ "\n" := rfl
    have inside : '\n' ∉ ("diff --git a/" ++ c.source ++ " b/" ++ c.target : Text) := by
      simp [source.not_mem feed, target.not_mem feed]
    have stepped : r.step c.compared =
        .ok { r.openFile ("a/" ++ c.source) ("b/" ++ c.target) with
          inHeader := true, pendingSource := some ("a/" ++ c.source) } := by
      unfold step
      rw [closed]
      dsimp only
      unfold headerStep
      rw [comparedNames?_compared named]
    unfold openFile at stepped
    rw [closed] at stepped
    rw [line] at stepped ⊢
    exact reads_line inside stepped
  have sourceLine {pending : Option Text} :
      Reads ⟨r.files, some ⟨c.sourceSide, c.targetSide, []⟩, true, pending, none⟩
        ("--- " ++ c.sourceSide ++ "\n")
        ⟨r.files, some ⟨c.sourceSide, c.targetSide, []⟩, true, some c.sourceSide, none⟩ := by
    apply reads_line
    · simp [left.not_mem feed]
    · exact step_source named
  have targetLine : Reads
      ⟨r.files, some ⟨c.sourceSide, c.targetSide, []⟩, true, some c.sourceSide, none⟩
      ("+++ " ++ c.targetSide ++ "\n")
      ⟨r.files, some ⟨c.sourceSide, c.targetSide, []⟩, true, some c.sourceSide, none⟩ := by
    apply reads_line
    · simp [right.not_mem feed]
    · exact step_target named rfl
  have text : c.written = c.compared ++ (c.mode ++
      (("--- " ++ c.sourceSide ++ "\n") ++ ("+++ " ++ c.targetSide ++ "\n"))) := by
    unfold Change.written
    iterate 8 rw [List.append_assoc]
    rfl
  rw [text]
  exact compared.trans ((mode_reads c).trans (sourceLine.trans targetLine))

-- A header opens a hunk that has no lines yet.
theorem header_reads {b : Block} (valid : b.Valid) :
    Reads ⟨files, some f, inHeader, pending, none⟩ (b.header ++ "\n")
      ⟨files, some f, false, pending, some { header := { b.hunk with lines := [] } }⟩ := by
  apply reads_line (not_mem_header valid.heading)
  have other : comparedNames? (b.header ++ "\n") = none := rfl
  have kept : isNewFile (b.header ++ "\n") = false ∧ isDeletedFile (b.header ++ "\n") = false ∧
      isModeChange (b.header ++ "\n") = false := ⟨rfl, rfl, rfl⟩
  have source : sourceName? (b.header ++ "\n") = none := rfl
  have target : targetName? (b.header ++ "\n") = none := rfl
  unfold step
  dsimp only
  unfold headerStep
  rw [other, kept.1, kept.2.1, kept.2.2, source, target, ofLine?_header valid.heading]
  simp [openStep, tooLong?_hunkHeader valid.short, hunkHeader_hunk]

theorem edit_reads {o : OpenHunk} {edit : Edit} (inLine : '\n' ∉ edit.content) {next : Reader}
    (stepped : hunkStep ⟨files, some f, inHeader, pending, some o⟩ o edit.line.written = .ok next) :
    Reads ⟨files, some f, inHeader, pending, some o⟩ edit.line.written next := by
  have line : edit.line.written = edit.row ++ "\n" := by cases edit <;> rfl
  have inside : '\n' ∉ edit.row := by
    cases edit with
    | keep content | add content | remove content => simpa [Edit.row, Edit.content] using inLine
  rw [line] at stepped ⊢
  exact reads_line inside stepped

-- The counts that are left are those of the lines that are left, so the hunk stays open as long as
-- there are lines and closes with the last one.
theorem body_reads {edits : List Edit} (filled : edits ≠ [])
    (inLine : ∀ edit ∈ edits, '\n' ∉ edit.content) {o : OpenHunk}
    (source : o.sourceRead + (edits.map fun edit => edit.line.kind.inSource).sum =
      o.header.source.length)
    (target : o.targetRead + (edits.map fun edit => edit.line.kind.inTarget).sum =
      o.header.target.length) :
    Reads ⟨files, some f, inHeader, pending, some o⟩
      (edits.flatMap fun edit => edit.line.written)
      ⟨files,
        some (f.addHunk { o.header with lines := o.lastFirst.reverse ++ edits.map Edit.line }),
        inHeader, pending, none⟩ := by
  induction edits generalizing o with
  | nil => exact absurd rfl filled
  | cons edit rest ih =>
    have known : HunkLine.ofLine? edit.line.written = some edit.line := by cases edit <;> rfl
    have fits : (o.add edit.line).isLong = false := by
      rw [Bool.eq_false_iff, ne_eq, isLong_iff]
      simp only [List.map_cons, List.sum_cons, OpenHunk.add] at source target ⊢
      omega
    rw [List.flatMap_cons]
    cases rest with
    | nil =>
      have full : (o.add edit.line).isShort = false := by
        rw [Bool.eq_false_iff, ne_eq, isShort_iff]
        simp only [List.map_cons, List.map_nil, List.sum_cons, List.sum_nil, OpenHunk.add]
          at source target ⊢
        omega
      rw [List.flatMap_nil, List.append_nil]
      apply edit_reads (inLine edit (by simp))
      unfold hunkStep
      rw [known]
      simp only [fits, full, Bool.false_eq_true, if_false]
      simp [update, OpenHunk.hunk, OpenHunk.add]
    | cons more rest =>
      have wanting : (o.add edit.line).isShort = true := by
        have another := edit_counts more
        rw [isShort_iff]
        simp only [List.map_cons, List.sum_cons, OpenHunk.add] at source target ⊢
        omega
      have stepped : hunkStep ⟨files, some f, inHeader, pending, some o⟩ o edit.line.written =
          .ok ⟨files, some f, inHeader, pending, some (o.add edit.line)⟩ := by
        unfold hunkStep
        rw [known]
        simp only [fits, wanting, Bool.false_eq_true, if_false, if_true]
      have later := ih (by simp) (fun edit member => inLine edit (List.mem_cons_of_mem _ member))
        (o := o.add edit.line) (by simpa [OpenHunk.add, Nat.add_assoc] using source)
        (by simpa [OpenHunk.add, Nat.add_assoc] using target)
      have first := edit_reads (inLine edit (by simp)) stepped
      have whole := first.trans later
      simpa [OpenHunk.add] using whole

theorem block_reads {b : Block} (valid : b.Valid) :
    Reads ⟨files, some f, inHeader, pending, none⟩ b.written
      ⟨files, some (f.addHunk b.hunk), false, pending, none⟩ := by
  have lines : b.lines.flatMap HunkLine.written =
      b.edits.flatMap fun edit => edit.line.written := by
    rw [Block.lines, List.flatMap_map]
  unfold Block.written
  rw [lines]
  apply (header_reads valid).trans
  apply body_reads valid.filled valid.inLine
  · simp [Block.hunk, Block.lines, Function.comp_def]
  · simp [Block.hunk, Block.lines, Function.comp_def]

theorem blocks_reads {blocks : List Block} (valid : ∀ b ∈ blocks, b.Valid) :
    ∃ inBlock, Reads ⟨files, some f, inHeader, pending, none⟩ (blocks.flatMap Block.written)
      ⟨files, some { f with hunks := f.hunks ++ blocks.map Block.hunk }, inBlock, pending,
        none⟩ := by
  induction blocks generalizing f inHeader with
  | nil => exact ⟨inHeader, by simpa using Reads.nil _⟩
  | cons b rest ih =>
    have own : b.Valid := valid b (by simp)
    obtain ⟨inBlock, later⟩ := @ih (f.addHunk b.hunk) false
      fun b member => valid b (List.mem_cons_of_mem _ member)
    refine ⟨inBlock, ?_⟩
    rw [List.flatMap_cons]
    apply (block_reads own).trans
    simpa [FilePatch.addHunk] using later

end

-- An entry leaves its file as the last one, and no hunk open.
theorem entry_reads {e : Entry} (valid : e.Valid) {r : Reader} (closed : r.openHunk = none) :
    ∃ next, r.Reads e.written next ∧ next.openHunk = none ∧
      next.files = r.files ++ [e.filePatch] := by
  obtain ⟨inBlock, hunks⟩ := blocks_reads valid.blocks
  exact ⟨_, (change_reads valid.named closed).trans hunks, rfl, rfl⟩

theorem layout_reads {entries : List Entry} (valid : ∀ e ∈ entries, e.Valid) {r : Reader}
    (closed : r.openHunk = none) :
    ∃ next, r.Reads (layout entries) next ∧ next.openHunk = none ∧
      next.files = r.files ++ entries.map Entry.filePatch := by
  induction entries generalizing r with
  | nil => exact ⟨r, .nil r, closed, by simp⟩
  | cons e rest ih =>
    obtain ⟨middle, first, between, files⟩ := entry_reads (valid e (by simp)) closed
    obtain ⟨next, later, done, all⟩ :=
      ih (fun e member => valid e (List.mem_cons_of_mem _ member)) between
    refine ⟨next, ?_, done, ?_⟩
    · exact first.trans later
    · rw [all, files, List.append_assoc]
      rfl

end Reader

theorem read_layout {entries : List Entry} (valid : ∀ e ∈ entries, e.Valid) :
    read (layout entries) = .ok (entries.map Entry.filePatch) := by
  obtain ⟨next, reads, done, files⟩ := Reader.layout_reads valid (r := {}) rfl
  have all := reads []
  rw [List.append_nil] at all
  unfold read readLines
  rw [all]
  change next.finish = _
  unfold Reader.finish
  rw [done, files]
  rfl

end PatchReview.Diff
