import Mathlib.Data.List.Basic
import PatchReview.Proofs.Pattern.Denotes
import PatchReview.Proofs.Pattern.Longest
import PatchReview.Proofs.Prose.LineByLine
import PatchReview.Proofs.Prose.Soundness

-- What is said of a finding that prose gives.  It is a part of one line, without blanks at its
-- ends.  Nothing at all is said where only blanks stand behind the colon of a bullet: the pattern
-- gives one of them back to have something to single out.
namespace PatchReview
namespace Prose

open Pattern hiding some nothing

def issueWords : List Text := ["bug", "issue", "concern"]

def suggestionWords : List Text := ["suggestion", "recommendation", "consider"]

-- What stands before the colon of a bullet.
def label (words : List Text) : Pattern :=
  seqs [listMark, alts (words.map anyCase), stars, lineBlanks]

-- The line is a label, a colon and `said`.
def Labels (words : List Text) (line said : Text) : Prop :=
  ∃ name, line = name ++ ':' :: said ∧
    (label words).Spans (.start line) (.between name (':' :: said))

-- Emphasis, perhaps, and then blanks to the end.
def IsBare (said : Text) : Prop :=
  ∃ emphasis gap, said = emphasis ++ gap ∧ (∀ c ∈ emphasis, c = '*') ∧ gap ≠ [] ∧
    ∀ c ∈ gap, Text.isBlank c = true

def LabelsNothing (words : List Text) (line : Text) : Prop :=
  ∃ said, Labels words line said ∧ IsBare said

-- What is singled out behind the emphasis, for a match that begins at `start`.
def remainder (start c : Cursor) : Option Capture.Found :=
  lineBlanks.tryAt c fun bodyStart =>
    restOfLine.tryAt bodyStart fun bodyEnd =>
      lineEnd.tryAt bodyEnd fun stop => some ⟨start, bodyStart, bodyEnd, stop⟩

section
variable {start c : Cursor} (inside : '\n' ∉ c.after)
include inside

theorem remainder_text {found : Capture.Found} (matched : remainder start c = some found) :
    found.text ≠ [] ∧ ∃ blanks, c.after = blanks ++ found.text ∧
      ∀ x ∈ blanks, Text.isBlank x = true := by
  obtain ⟨bodyStart, ⟨blanks, members, -, -, skipped⟩, matched⟩ := exists_spans_of_tryAt matched
  obtain ⟨bodyEnd, ⟨run, -, filled, -, passed⟩, matched⟩ := exists_spans_of_tryAt matched
  obtain ⟨stop, ⟨-, ends⟩, matched⟩ := exists_spans_of_tryAt matched
  cases matched
  have text : Capture.Found.text ⟨start, bodyStart, bodyEnd, stop⟩ = run := passed.upTo
  have whole : c.after = blanks ++ (run ++ bodyEnd.after) := skipped.1.trans (passed.1 ▸ rfl)
  have behind : '\n' ∉ bodyEnd.after := by
    intro feed
    rw [whole] at inside
    simp [feed] at inside
  have nothing := Cursor.after_of_atLineEnd ends behind
  rw [text]
  refine ⟨List.ne_nil_of_length_pos filled, blanks, ?_, ?_⟩
  · rw [whole, nothing, List.append_nil]
  · intro x member
    have blank : x = ' ' ∨ x = '\t' := by
      simpa [CharSet.contains, CharSet.lineBlank] using members x member
    rcases blank with rfl | rfl <;> decide

theorem remainder_isSome (filled : c.after ≠ []) : (remainder start c).isSome = true := by
  obtain ⟨before, after, offset⟩ := c
  unfold remainder
  simp only [tryAt_isSome]
  refine ⟨_, ⟨[], nofun, Nat.le_refl _, nofun, passes_nil.mpr rfl⟩,
    ⟨after.reverse ++ before, [], offset + after.length⟩, ⟨after, ?_, ?_, nofun, ?_⟩, _, ⟨rfl, rfl⟩,
    rfl⟩
  · intro x member
    have other : x ≠ '\n' := fun same => inside (same ▸ member)
    simpa [CharSet.contains, CharSet.inLine] using other
  · exact List.length_pos_iff.mpr filled
  · simp [Cursor.Passes]

-- As much emphasis as there is goes first, so it is the blanks that are left.
theorem remainder_blank_iff {found : Capture.Found}
    (matched : stars.tryAt c (remainder start) = some found) :
    Text.trim found.text = [] ↔ IsBare c.after := by
  have isStar {x : Char} : (CharSet.oneOf "*").contains x = true ↔ x = '*' := by
    simp [CharSet.contains]
  rw [Text.trim_eq_nil_iff]
  constructor
  · intro blank
    obtain ⟨middle, ⟨emphasis, members, -, -, passed⟩, matched⟩ := exists_spans_of_tryAt matched
    have behind : '\n' ∉ middle.after :=
      fun feed => inside (passed.1 ▸ List.mem_append_right _ feed)
    obtain ⟨filled, blanks, cut, skipped⟩ := remainder_text behind matched
    refine ⟨emphasis, middle.after, passed.1, fun x member => isStar.mp (members x member), ?_, ?_⟩
    · rw [cut]
      exact List.append_ne_nil_of_right_ne_nil _ filled
    · rw [cut, List.forall_mem_append]
      exact ⟨skipped, blank⟩
  · intro given
    obtain ⟨emphasis, gap, cut, members, filled, blank⟩ := given
    have behind : '\n' ∉ gap := fun feed => inside (cut ▸ List.mem_append_right _ feed)
    have ends : ∀ x ∈ gap.head?, (CharSet.oneOf "*").contains x = false := by
      intro x first
      rw [← Bool.not_eq_true, isStar]
      intro star
      have spaced := blank x (List.mem_of_mem_head? first)
      rw [star] at spaced
      exact absurd spaced (by decide)
    have passed : c.Passes emphasis
        ⟨emphasis.reverse ++ c.before, gap, c.offset + emphasis.length⟩ := ⟨cut, rfl, rfl⟩
    rw [stars, tryAt_longest passed (fun x member => isStar.mpr (members x member)) ends
      (remainder_isSome behind filled)] at matched
    obtain ⟨-, blanks, parts, -⟩ := remainder_text behind matched
    dsimp only at parts
    intro x member
    exact blank x (parts ▸ List.mem_append_right _ member)

end

section
variable {words : List Text} {line : Text}

theorem bulleted_at? (c : Cursor) :
    (bulleted words).at? c =
      (label words).tryAt c fun middle =>
        (exactly ":").tryAt middle fun behind => stars.tryAt behind (remainder c) :=
  tryAt_seqs [listMark, alts (words.map anyCase), stars, lineBlanks]
    [exactly ":", stars, lineBlanks] c _

theorem at?_labelled (inside : '\n' ∉ line) {found : Capture.Found}
    (matched : (bulleted words).at? (.start line) = some found) :
    ∃ said, Labels words line said ∧ (Text.trim found.text = [] ↔ IsBare said) := by
  rw [bulleted_at?] at matched
  obtain ⟨middle, span, matched⟩ := exists_spans_of_tryAt matched
  obtain ⟨behind, colon, matched⟩ := exists_spans_of_tryAt matched
  have passes : ∃ name, (Cursor.between [] line).Passes name middle := span.passes
  obtain ⟨name, passed⟩ := passes
  obtain ⟨after, whole, rfl⟩ := passes_between.mp passed
  obtain ⟨said, rfl, rfl⟩ := passes_between.mp (spans_exactly.mp colon)
  have clear : '\n' ∉ said := by
    intro feed
    rw [whole] at inside
    simp [feed] at inside
  exact ⟨said, ⟨name, whole, span⟩, remainder_blank_iff clear matched⟩

theorem LabelsNothing.isSome (nothing : LabelsNothing words line) (inside : '\n' ∉ line) :
    ((bulleted words).at? (.start line)).isSome = true := by
  obtain ⟨said, ⟨name, whole, span⟩, emphasis, gap, rfl, members, filled, -⟩ := nothing
  have clear : '\n' ∉ gap := by
    intro feed
    rw [whole] at inside
    simp [feed] at inside
  have colon : (exactly ":").Spans (.between name (':' :: (emphasis ++ gap)))
      (.between (name ++ [':']) (emphasis ++ gap)) :=
    spans_exactly.mpr (passes_between.mpr ⟨_, rfl, rfl⟩)
  have starred : stars.Spans (.between (name ++ [':']) (emphasis ++ gap))
      (.between (name ++ [':'] ++ emphasis) gap) := by
    refine ⟨emphasis, ?_, Nat.zero_le _, nofun, passes_between.mpr ⟨_, rfl, rfl⟩⟩
    intro x member
    simp [CharSet.contains, members x member]
  simp only [bulleted_at?, tryAt_isSome]
  exact ⟨_, span, _, colon, _, starred, remainder_isSome clear filled⟩

-- No label holds a colon, so the first colon of a line is where what is said begins.
theorem Labels.unique {others : List Text} (clear : (label words).avoids ':' = true)
    (clearToo : (label others).avoids ':' = true) {one two : Text} (first : Labels words line one)
    (second : Labels others line two) : one = two := by
  have free {words : List Text} (clear : (label words).avoids ':' = true) {name after : Text}
      (span : (label words).Spans (.start line) (.between name after)) : ':' ∉ name := by
    obtain ⟨run, ⟨-, behind, -⟩, avoided⟩ := span.passes_avoiding clear
    have same : name.reverse = run.reverse := by simpa [Cursor.between, Cursor.start] using behind
    rwa [List.reverse_injective same]
  have behind {name : Text} (free : ':' ∉ name) (said : Text) :
      (name ++ ':' :: said).dropWhile (· ≠ ':') = ':' :: said := by
    rw [List.dropWhile_append_of_pos]
    · simp
    · intro c member
      have other : c ≠ ':' := fun same => free (same ▸ member)
      simpa using other
  obtain ⟨name, whole, span⟩ := first
  obtain ⟨other, wholeToo, spanToo⟩ := second
  have same := (behind (free clear span) one).symm.trans
    (whole ▸ wholeToo ▸ behind (free clearToo spanToo) two)
  exact (List.cons.inj same).2

end

theorem issueLabel_clear : (label issueWords).avoids ':' = true := by decide

theorem suggestionLabel_clear : (label suggestionWords).avoids ':' = true := by decide

section
variable {words : List Text} {line : Text} (inside : '\n' ∉ line)
  (takes : (bulleted words).TakesLines) (clear : (label words).avoids ':' = true)
include inside takes clear

-- Whichever words a bullet goes by, it finds nothing said where nothing is said.
theorem LabelsNothing.found {others : List Text} (nothing : LabelsNothing others line)
    (clearToo : (label others).avoids ':' = true) {found : Capture.Found}
    (matched : (bulleted words).first? line = some found) :
    Text.trim found.text = [] ∧ LabelsNothing words line := by
  rw [takes.first?_line inside] at matched
  obtain ⟨said, labelled, blank⟩ := at?_labelled inside matched
  obtain ⟨other, told, bare⟩ := nothing
  obtain rfl := labelled.unique clear clearToo told
  exact ⟨blank.mpr bare, said, labelled, bare⟩

theorem first?_nothing_iff :
    (∃ found, (bulleted words).first? line = some found ∧ Text.trim found.text = []) ↔
      LabelsNothing words line := by
  constructor
  · intro given
    obtain ⟨found, matched, blank⟩ := given
    rw [takes.first?_line inside] at matched
    obtain ⟨said, labelled, bare⟩ := at?_labelled inside matched
    exact ⟨said, labelled, bare.mp blank⟩
  · intro nothing
    obtain ⟨found, matched⟩ := Option.isSome_iff_exists.mp (nothing.isSome inside)
    rw [← takes.first?_line inside] at matched
    exact ⟨found, matched, (nothing.found inside takes clear clear matched).1⟩

end

-- A line that suggests nothing is open to the pass for suggestions unless it also is an issue.
theorem untaken_iff {text line : Text} {start : Nat}
    (place : (start, line) ∈ placed 0 (Text.lines text))
    (nothing : LabelsNothing suggestionWords line) :
    start ∉ takenLines text ↔
      holdsSummary text start line = false ∧ ¬LabelsNothing issueWords line := by
  have inside := Text.not_mem_of_mem_lines (mem_of_mem_placed place)
  have issue : (issueBullet.first? line).isSome = true ↔ LabelsNothing issueWords line := by
    constructor
    · intro given
      obtain ⟨found, matched⟩ := Option.isSome_iff_exists.mp given
      exact (nothing.found inside issueBullet_takesLines issueLabel_clear suggestionLabel_clear
        matched).2
    · intro bare
      rw [issueBullet_takesLines.first?_line inside]
      exact bare.isSome inside
  rw [mem_takenLines place, not_or, Bool.not_eq_true, issue]

theorem exists_mem_placed {line : Text} {lines : List Text} (offset : Nat) (member : line ∈ lines) :
    ∃ start, (start, line) ∈ placed offset lines := by
  induction lines generalizing offset with
  | nil => cases member
  | cons first rest ih =>
    rcases List.mem_cons.mp member with rfl | later
    · exact ⟨offset, List.mem_cons_self⟩
    · obtain ⟨start, place⟩ := ih (offset + first.length + 1) later
      exact ⟨start, List.mem_cons_of_mem _ place⟩

-- A match of a bullet pattern in the text is a match in one of the lines.
theorem exists_mem_all {p : Capture} (takes : p.TakesLines) {text said : Text} {start : Nat} :
    (∃ found ∈ p.all text, placeAndText found = (start, said)) ↔
      ∃ line, (start, line) ∈ placed 0 (Text.lines text) ∧
        ∃ found, p.first? line = some found ∧ found.text = said := by
  rw [← List.mem_map, all_places takes, List.mem_filterMap]
  constructor
  · intro given
    obtain ⟨⟨place, line⟩, member, matched⟩ := given
    obtain ⟨found, own, same⟩ := Option.map_eq_some_iff.mp matched
    obtain ⟨rfl, rfl⟩ := Prod.mk.inj same
    exact ⟨line, member, found, own, rfl⟩
  · intro given
    obtain ⟨line, member, found, matched, same⟩ := given
    exact ⟨(start, line), member, by simp [matched, same]⟩

-- The bullets that give nothing, by the places of their lines.
theorem bullets_nothing_iff {words : List Text} (takes : (bulleted words).TakesLines)
    (clear : (label words).avoids ':' = true) {text : Text} {start : Nat} :
    (∃ found ∈ (bulleted words).all text,
        lineOf found.start = start ∧ Text.trim found.text = []) ↔
      ∃ line, (start, line) ∈ placed 0 (Text.lines text) ∧ LabelsNothing words line := by
  have inside {line : Text} (place : (start, line) ∈ placed 0 (Text.lines text)) : '\n' ∉ line :=
    Text.not_mem_of_mem_lines (mem_of_mem_placed place)
  constructor
  · intro given
    obtain ⟨found, member, rfl, empty⟩ := given
    obtain ⟨line, place, own, matched, same⟩ := (exists_mem_all takes).mp ⟨found, member, rfl⟩
    have nothing := (first?_nothing_iff (inside place) takes clear).mp ⟨own, matched, same ▸ empty⟩
    exact ⟨line, place, nothing⟩
  · intro given
    obtain ⟨line, place, nothing⟩ := given
    obtain ⟨own, matched, empty⟩ := (first?_nothing_iff (inside place) takes clear).mpr nothing
    obtain ⟨found, member, same⟩ :=
      (exists_mem_all takes).mpr ⟨line, place, own, matched, rfl⟩
    obtain ⟨there, said⟩ := Prod.mk.inj same
    exact ⟨found, member, there, said.symm ▸ empty⟩

-- What a description is, apart from being empty or not.
structure IsPartOf (text description : Text) : Prop where
  trimmed : Text.IsTrimmed description
  oneLine : '\n' ∉ description
  part : ∃ line ∈ Text.lines text, description <:+: line

theorem isPartOf_trim {text line part : Text} (member : line ∈ Text.lines text)
    (inside : part <:+: line) : IsPartOf text (Text.trim part) where
  trimmed := Text.isTrimmed_trim part
  oneLine := Text.newline_trim fun feed => Text.not_mem_of_mem_lines member (inside.subset feed)
  part := ⟨line, member, (Text.isInfix_trimWhile _ part).trans inside⟩

theorem isPartOf_bullet {p : Capture} (takes : p.TakesLines) {text : Text} {found : Capture.Found}
    (member : found ∈ p.all text) : IsPartOf text (Text.trim found.text) := by
  obtain ⟨line, place, own, matched, same⟩ := (exists_mem_all takes).mp ⟨found, member, rfl⟩
  have among := mem_of_mem_placed place
  rw [takes.first?_line (Text.not_mem_of_mem_lines among)] at matched
  exact isPartOf_trim among (same ▸ Capture.text_infix matched)

theorem openLines_said {taken : List Nat} {text line : Text}
    (member : line ∈ openLines taken text) : IsPartOf text line ∧ line ≠ [] := by
  obtain ⟨⟨start, whole⟩, place, kept⟩ := List.mem_filterMap.mp member
  dsimp only at kept
  split at kept
  · cases kept
  · rename_i filled
    cases kept
    simp only [Bool.or_eq_true, not_or, List.isEmpty_iff] at filled
    exact ⟨isPartOf_trim (mem_of_mem_placed place) (List.infix_refl whole), filled.1⟩

theorem bulletedIssue_description (description : Text) :
    (bulletedIssue description).description = description := by
  unfold bulletedIssue
  dsimp only
  split <;> rfl

section
variable (filename text : Text)

theorem findings_part {finding : Finding} (member : finding ∈ (parse filename text).findings) :
    IsPartOf text finding.description := by
  rcases List.mem_append.mp member with issue | suggestion
  · rcases List.mem_append.mp issue with bullet | worded
    · obtain ⟨found, among, rfl⟩ := List.mem_map.mp bullet
      rw [bulletedIssue_description]
      exact isPartOf_bullet issueBullet_takesLines among
    · obtain ⟨line, among, rfl⟩ := List.mem_map.mp worded
      exact (openLines_said (List.mem_of_mem_filter among)).1
  · rcases List.mem_append.mp suggestion with bullet | worded
    · obtain ⟨found, among, rfl⟩ := List.mem_map.mp bullet
      exact isPartOf_bullet suggestionBullet_takesLines (List.mem_of_mem_filter among)
    · obtain ⟨line, among, rfl⟩ := List.mem_map.mp worded
      exact (openLines_said (List.mem_of_mem_filter among)).1

theorem issues_empty_iff :
    (∃ issue ∈ (parse filename text).issues, issue.description = []) ↔
      ∃ line ∈ Text.lines text, LabelsNothing issueWords line := by
  have bullets {start : Nat} := @bullets_nothing_iff issueWords issueBullet_takesLines
    issueLabel_clear text start
  constructor
  · intro given
    obtain ⟨issue, member, empty⟩ := given
    rcases List.mem_append.mp member with bullet | worded
    · obtain ⟨found, among, rfl⟩ := List.mem_map.mp bullet
      rw [bulletedIssue_description] at empty
      obtain ⟨line, place, nothing⟩ := bullets.mp ⟨found, among, rfl, empty⟩
      exact ⟨line, mem_of_mem_placed place, nothing⟩
    · obtain ⟨line, among, rfl⟩ := List.mem_map.mp worded
      exact absurd empty (openLines_said (List.mem_of_mem_filter among)).2
  · intro given
    obtain ⟨line, member, nothing⟩ := given
    obtain ⟨start, place⟩ := exists_mem_placed 0 member
    obtain ⟨found, among, -, empty⟩ := bullets.mpr ⟨line, place, nothing⟩
    refine ⟨_, List.mem_append_left _ (List.mem_map.mpr ⟨found, among, rfl⟩), ?_⟩
    rw [bulletedIssue_description, empty]

theorem suggestions_empty_iff :
    (∃ suggestion ∈ (parse filename text).suggestions, suggestion.description = []) ↔
      ∃ start line, (start, line) ∈ placed 0 (Text.lines text) ∧
        holdsSummary text start line = false ∧ LabelsNothing suggestionWords line ∧
          ¬LabelsNothing issueWords line := by
  have bullets {start : Nat} := @bullets_nothing_iff suggestionWords suggestionBullet_takesLines
    suggestionLabel_clear text start
  constructor
  · intro given
    obtain ⟨suggestion, member, empty⟩ := given
    rcases List.mem_append.mp member with bullet | worded
    · obtain ⟨found, kept, rfl⟩ := List.mem_map.mp bullet
      obtain ⟨among, free⟩ := List.mem_filter.mp kept
      obtain ⟨line, place, nothing⟩ := bullets.mp ⟨found, among, rfl, empty⟩
      change (!(takenLines text).contains (lineOf found.start)) = true at free
      obtain ⟨away, plain⟩ := (untaken_iff place nothing).mp (by simpa using free)
      exact ⟨_, line, place, away, nothing, plain⟩
    · obtain ⟨line, among, rfl⟩ := List.mem_map.mp worded
      exact absurd empty (openLines_said (List.mem_of_mem_filter among)).2
  · intro given
    obtain ⟨start, line, place, away, nothing, plain⟩ := given
    obtain ⟨found, among, rfl, empty⟩ := bullets.mpr ⟨line, place, nothing⟩
    have free := (untaken_iff place nothing).mpr ⟨away, plain⟩
    have kept : found ∈ keptSuggestions text := List.mem_filter.mpr ⟨among, by simpa using free⟩
    exact ⟨_, List.mem_append_left _ (List.mem_map.mpr ⟨found, kept, rfl⟩), empty⟩

-- Every finding repeats a part of a line, and it says something unless the line is a bullet with
-- nothing but emphasis and blanks behind its colon.
theorem findings_described :
    (∀ finding ∈ (parse filename text).findings, IsPartOf text finding.description) ∧
      ((∃ issue ∈ (parse filename text).issues, issue.description = []) ↔
        ∃ line ∈ Text.lines text, LabelsNothing issueWords line) ∧
      ((∃ suggestion ∈ (parse filename text).suggestions, suggestion.description = []) ↔
        ∃ start line, (start, line) ∈ placed 0 (Text.lines text) ∧
          holdsSummary text start line = false ∧ LabelsNothing suggestionWords line ∧
            ¬LabelsNothing issueWords line) :=
  ⟨fun _ => findings_part filename text, issues_empty_iff filename text,
    suggestions_empty_iff filename text⟩

example : (parse "a.py" "- Bug: ").issues.map (·.description) = [[]] := by decide +kernel

end

end Prose
end PatchReview
