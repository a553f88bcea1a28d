import PatchReview.Proofs.Diff.Accepted
import PatchReview.Proofs.Diff.Written

-- The counts of a file that was read are those of its patch.  Up to the last line of a diff the
-- reader holds whole hunks only: each line that it took had its line feed.  A last line without one
-- can only end a hunk, because no diff is accepted that ends inside of one.
namespace PatchReview.Diff

-- A line that starts with a mark is kept as it is.
theorem written_ofLine? {c : Char} (plain : isReturn c = false) {rest : Text} {l : HunkLine}
    (taken : HunkLine.ofLine? (c :: rest) = some l) :
    l.written = c :: rest ∧ l.kind.mark.head? = some c := by
  unfold HunkLine.ofLine? at taken
  split at taken <;> rename_i same <;> cases same
  case h_5 =>
    rw [plain] at taken
    cases taken
  all_goals
    cases taken
    exact ⟨rfl, rfl⟩

-- Carriage returns aside a line of a hunk is one row, kept with its line feed or without.
section
variable {content : Text} (inside : '\n' ∉ content) (clear : '\r' ∉ content) {l : HunkLine}
include inside clear

theorem isReturn_head : ∀ c ∈ content.head?, isReturn c = false := by
  intro c first
  have member := List.mem_of_mem_head? first
  have other : c ≠ '\r' ∧ c ≠ '\n' :=
    ⟨fun same => clear (same ▸ member), fun same => inside (same ▸ member)⟩
  simp [isReturn, other]

theorem ofLine?_ended (taken : HunkLine.ofLine? (content ++ ['\n']) = some l) : l.Ended := by
  have plain := isReturn_head inside clear
  cases content with
  | nil =>
    cases taken
    exact ⟨[' '], rfl, by decide, rfl⟩
  | cons c rest =>
    obtain ⟨written, mark⟩ := written_ofLine? (plain c rfl) taken
    exact ⟨c :: rest, written, inside, mark.symm⟩

theorem ofLine?_open (taken : HunkLine.ofLine? content = some l) : l.Open := by
  have plain := isReturn_head inside clear
  cases content with
  | nil => cases taken
  | cons c rest =>
    obtain ⟨written, mark⟩ := written_ofLine? (plain c rfl) taken
    rw [HunkLine.Open, IsRow, written]
    exact ⟨inside, mark.symm⟩

end

section
variable {f : FilePatch}

theorem FilePatch.Whole.addLine (whole : f.Whole) {l : HunkLine} (ended : l.Ended) :
    (f.addLine l).Whole := by
  intro h member
  rcases List.mem_append.mp member with early | last
  · exact whole h (List.dropLast_subset _ early)
  · obtain ⟨old, there, rfl⟩ := Option.map_eq_some_iff.mp (Option.mem_toList.mp last)
    obtain ⟨heading, lines⟩ := whole old (List.mem_of_getLast? there)
    refine ⟨heading, ?_⟩
    intro line among
    rcases List.mem_append.mp among with before | new
    · exact lines line before
    · exact List.mem_singleton.mp new ▸ ended

theorem FilePatch.Whole.addHunk (whole : f.Whole) {h : Hunk} (own : h.Whole) :
    (f.addHunk h).Whole := by
  intro other member
  rcases List.mem_append.mp member with before | new
  · exact whole other before
  · exact List.mem_singleton.mp new ▸ own

end

theorem newline_heading {line : Text} {header : HunkHeader}
    (read : HunkHeader.ofLine? line = some header) : '\n' ∉ header.heading := by
  have clear (text : Text) : '\n' ∉ beforeLineFeed text := by
    intro feed
    simpa using List.mem_takeWhile_imp feed
  unfold HunkHeader.ofLine? at read
  simp only [Option.bind_eq_bind, Option.bind_eq_some_iff] at read
  obtain ⟨_, -, ⟨_, _⟩, -, _, -, ⟨_, _⟩, -, rest, -, same⟩ := read
  cases same
  dsimp only
  split
  · exact clear _
  · exact clear _

-- The hunk at hand is whole as far as it was read.
structure OpenHunk.Whole (o : OpenHunk) : Prop where
  heading : '\n' ∉ o.header.heading
  lines : ∀ l ∈ o.lastFirst, l.Ended

section
variable {o : OpenHunk} (whole : o.Whole)
include whole

theorem OpenHunk.Whole.hunk : o.hunk.Whole :=
  ⟨whole.heading, fun l member => whole.lines l (List.mem_reverse.mp member)⟩

theorem OpenHunk.Whole.add {l : HunkLine} (ended : l.Ended) : (o.add l).Whole :=
  ⟨whole.heading, List.forall_mem_cons.mpr ⟨ended, whole.lines⟩⟩

theorem OpenHunk.Whole.last {l : HunkLine} (opened : l.Open) : (o.add l).hunk.Last :=
  ⟨whole.heading, o.lastFirst.reverse, l, List.reverse_cons,
    fun l member => whole.lines l (List.mem_reverse.mp member), opened⟩

end

namespace Reader

-- A file that a change leaves was there before or comes of one that was.
theorem mem_update {r : Reader} {change : FilePatch → FilePatch} {f : FilePatch}
    (member : f ∈ (r.update change).files) : f ∈ r.files ∨ ∃ old ∈ r.files, f = change old := by
  rcases List.mem_append.mp member with closed | current
  · exact .inl (List.mem_append_left _ closed)
  · obtain ⟨old, there, rfl⟩ := Option.map_eq_some_iff.mp (Option.mem_toList.mp current)
    exact .inr ⟨old, List.mem_append_right _ (Option.mem_toList.mpr there), rfl⟩

structure Whole (r : Reader) : Prop where
  files : ∀ f ∈ r.files, f.Whole
  openHunk : ∀ o ∈ r.openHunk, o.Whole

section
variable {r next : Reader} {line : Text} (whole : r.Whole)
include whole

-- Nothing else in the state matters.
theorem Whole.same (files : next.files = r.files) (hunk : next.openHunk = r.openHunk) :
    next.Whole :=
  ⟨files ▸ whole.files, hunk ▸ whole.openHunk⟩

theorem Whole.update {change : FilePatch → FilePatch}
    (keeps : ∀ f : FilePatch, f.Whole → (change f).Whole) : (r.update change).Whole := by
  refine ⟨?_, whole.openHunk⟩
  intro f member
  rcases mem_update member with same | ⟨old, there, rfl⟩
  · exact whole.files f same
  · exact keeps old (whole.files old there)

theorem Whole.close : r.close.Whole := by
  refine ⟨?_, whole.openHunk⟩
  intro f member
  exact whole.files f (by simpa [Reader.close, Reader.files] using member)

-- A file begins without hunks.
theorem Whole.openFile (source target : Text) : (r.openFile source target).Whole := by
  refine ⟨?_, whole.openHunk⟩
  intro f member
  rcases List.mem_append.mp member with before | new
  · exact whole.files f before
  · cases List.mem_singleton.mp new
    exact fun h among => absurd among List.not_mem_nil

theorem Whole.otherStep (stepped : r.otherStep line = .ok next) : next.Whole := by
  have opened : (if r.inHeader then r else { r.close with inHeader := true }).Whole := by
    split
    · exact whole
    · exact whole.close.same rfl rfl
  unfold Reader.otherStep at stepped
  dsimp only at stepped
  generalize (if r.inHeader then r else { r.close with inHeader := true }) = r' at opened stepped
  split at stepped
  · cases stepped
    refine Whole.same (Whole.close ?_) rfl rfl
    split
    · exact opened.openFile _ _
    · exact opened
  · split at stepped
    · split at stepped
      · cases stepped
      · cases stepped
        exact opened.close.same rfl rfl
    · cases stepped
      exact opened

theorem Whole.targetStep {target : Text} (stepped : r.targetStep target line = .ok next) :
    next.Whole := by
  unfold Reader.targetStep at stepped
  split at stepped
  · split at stepped
    · cases stepped
      exact whole
    · cases stepped
  · split at stepped
    · cases stepped
    · cases stepped
      exact (whole.openFile _ _).same rfl rfl

theorem Whole.remarkStep (stepped : r.remarkStep line = .ok next) : next.Whole := by
  have ended : HunkLine.Ended ⟨.remark, " No newline at end of file\n"⟩ :=
    ⟨"\\ No newline at end of file", rfl, by decide, rfl⟩
  unfold Reader.remarkStep at stepped
  split at stepped
  · cases stepped
  · split at stepped
    · cases stepped
    · cases stepped
      exact whole.update fun f own => own.addLine ended

theorem Whole.openStep {header : HunkHeader} (heading : '\n' ∉ header.heading)
    (stepped : r.openStep header line = .ok next) : next.Whole := by
  unfold Reader.openStep at stepped
  split at stepped
  · cases stepped
  · split at stepped
    · cases stepped
    · cases stepped
      refine ⟨whole.files, ?_⟩
      intro o same
      cases same
      exact ⟨heading, fun l member => absurd member List.not_mem_nil⟩

theorem Whole.headerStep (stepped : r.headerStep line = .ok next) : next.Whole := by
  unfold Reader.headerStep at stepped
  dsimp only at stepped
  split at stepped
  · cases stepped
    exact (whole.openFile _ _).same rfl rfl
  split at stepped
  · split at stepped
    · cases stepped
      exact whole.update fun f own => own
    · cases stepped
  split at stepped
  · split at stepped
    · cases stepped
      exact whole.update fun f own => own
    · cases stepped
  split at stepped
  · cases stepped
    exact whole
  split at stepped
  · cases stepped
    split
    · exact whole.same rfl rfl
    · exact whole.close.same rfl rfl
  split at stepped
  · exact whole.targetStep stepped
  split at stepped
  · rename_i header read
    exact whole.openStep (newline_heading read) stepped
  split at stepped
  · exact whole.remarkStep stepped
  split at stepped
  · cases stepped
    exact whole.update fun f own => own.addLine ⟨[], rfl, by decide, rfl⟩
  · exact whole.otherStep stepped

section
variable {content : Text} (inside : '\n' ∉ content) (clear : '\r' ∉ content)
include inside clear

theorem Whole.step (stepped : r.step (content ++ ['\n']) = .ok next) : next.Whole := by
  unfold Reader.step at stepped
  cases opened : r.openHunk with
  | none =>
    rw [opened] at stepped
    exact whole.headerStep stepped
  | some o =>
    rw [opened] at stepped
    dsimp only at stepped
    unfold Reader.hunkStep at stepped
    cases taken : HunkLine.ofLine? (content ++ ['\n']) with
    | none => simp [taken] at stepped
    | some l =>
      have further := (whole.openHunk o opened).add (ofLine?_ended inside clear taken)
      rw [taken] at stepped
      dsimp only at stepped
      split at stepped
      · cases stepped
      · split at stepped
        · cases stepped
          refine ⟨whole.files, ?_⟩
          intro other same
          cases same
          exact further
        · cases stepped
          refine ⟨(whole.update fun f own => own.addHunk further.hunk).files, ?_⟩
          intro other same
          cases same

end

-- A hunk that is still open wants no line, so it is whole.
theorem Whole.finish {files : List FilePatch} (ended : r.finish = .ok files) :
    ∀ f ∈ files, f.Whole := by
  unfold Reader.finish at ended
  split at ended
  · cases ended
    exact whole.files
  · rename_i o opened
    split at ended
    · cases ended
    · cases ended
      exact (whole.update fun f own => own.addHunk (whole.openHunk o opened).hunk).files

-- A last line without a line feed ends its hunk, or the diff is refused.
theorem Whole.lastStep {content : Text} (inside : '\n' ∉ content) (clear : '\r' ∉ content)
    {files : List FilePatch} (stepped : r.step content = .ok next)
    (ended : next.finish = .ok files) : ∀ f ∈ files, f.Counted := by
  unfold Reader.step at stepped
  cases opened : r.openHunk with
  | none =>
    rw [opened] at stepped
    exact fun f member => ((whole.headerStep stepped).finish ended f member).counted
  | some o =>
    rw [opened] at stepped
    dsimp only at stepped
    unfold Reader.hunkStep at stepped
    cases taken : HunkLine.ofLine? content with
    | none => simp [taken] at stepped
    | some l =>
      have last := (whole.openHunk o opened).last (ofLine?_open inside clear taken)
      rw [taken] at stepped
      dsimp only at stepped
      split at stepped
      · cases stepped
      · split at stepped
        · rename_i short
          cases stepped
          simp [Reader.finish, short] at ended
        · cases stepped
          cases ended
          intro f member
          rcases mem_update (r := r) member with before | ⟨old, there, rfl⟩
          · exact (whole.files f before).counted
          · exact (whole.files old there).counted_addHunk last.counted

end

theorem Whole.reads {text : Text} (clear : '\r' ∉ text) {r : Reader} (whole : r.Whole)
    {files : List FilePatch}
    (accepted : ((Text.terminatedLines text).foldlM Reader.step r >>= Reader.finish) = .ok files) :
    ∀ f ∈ files, f.Counted := by
  induction text using Text.line_induction generalizing r with
  | single line inside =>
    rw [Text.terminatedLines_single inside] at accepted
    cases line with
    | nil => exact fun f member => (whole.finish accepted f member).counted
    | cons c rest =>
      rw [if_neg (List.cons_ne_nil c rest), List.foldlM_cons] at accepted
      cases stepped : r.step (c :: rest) with
      | error cause =>
        rw [stepped] at accepted
        cases accepted
      | ok next =>
        rw [stepped] at accepted
        exact whole.lastStep inside clear stepped accepted
  | more line rest inside ih =>
    rw [Text.terminatedLines_append inside, List.foldlM_cons] at accepted
    have own : '\r' ∉ line := fun member => clear (by simp [member])
    have later : '\r' ∉ rest := fun member => clear (by simp [member])
    cases stepped : r.step (line ++ ['\n']) with
    | error cause =>
      rw [stepped] at accepted
      cases accepted
    | ok next =>
      rw [stepped] at accepted
      exact ih later (whole.step inside own stepped) accepted

end Reader

theorem read_counted {diff : Text} (clear : '\r' ∉ diff) {files : List FilePatch}
    (accepted : read diff = .ok files) : ∀ f ∈ files, f.Counted := by
  have start : Reader.Whole {} :=
    ⟨fun f member => absurd member List.not_mem_nil, fun o opened => nomatch opened⟩
  exact start.reads clear accepted

end PatchReview.Diff
