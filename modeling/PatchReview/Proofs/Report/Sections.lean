import Mathlib.Data.List.Count
import PatchReview.Proofs.Reviewing.Soundness
import PatchReview.Report.Render

-- The lists in a markdown report.  No review says anything over two lines, so under each heading
-- stand the lines of its own entries and nothing else, whatever was found or replied.
namespace PatchReview

theorem Severity.label_eq (severity : Severity) :
    severity.label = severity.name.map Char.toUpper := by cases severity <;> rfl

namespace MarkdownReport

-- The line heads no list.
def Beneath (line : Text) : Prop := ∀ rest, line ≠ '#' :: '#' :: '#' :: '#' :: rest

-- A heading, an empty line, the rows, and an empty line; nothing at all without rows.
def listing (heading : Text) (rows : List Text) : List Text :=
  if rows = [] then [] else heading :: [] :: (rows ++ [[]])

-- Where there are rows they stand under their heading, and there is no other such heading.
structure Lists (heading : Text) (rows part : List Text) : Prop where
  once : part.count heading = if rows = [] then 0 else 1
  laid : rows ≠ [] → heading :: [] :: (rows ++ [[]]) <:+: part

section
variable {heading : Text} {rows : List Text}

theorem flatMap_listing {findings : List Finding} {row : Finding → Text} (inside : '\n' ∉ heading)
    (single : ∀ finding ∈ findings, '\n' ∉ row finding) :
    (if findings.isEmpty then [] else (heading ++ ['\n']) :: (findings.map row ++ [[]])).flatMap
      Text.lines = listing heading (findings.map row) := by
  cases findings with
  | nil => rfl
  | cons first rest =>
    rw [listing, if_neg (by simp), if_neg (by simp), List.flatMap_cons, Text.lines_row inside,
      List.flatMap_append, Text.flatMap_lines (List.forall_mem_map.mpr single)]
    rfl

theorem count_listing (heads : ¬Beneath heading) (under : ∀ row ∈ rows, Beneath row) :
    (listing heading rows).count heading = if rows = [] then 0 else 1 := by
  unfold listing
  split
  · rfl
  · have none : (rows ++ [[]]).count heading = 0 := by
      rw [List.count_eq_zero]
      intro member
      rcases List.mem_append.mp member with row | empty
      · exact heads (under heading row)
      · cases List.mem_singleton.mp empty
        exact heads nofun
    rw [List.count_cons_self, List.count_cons_of_ne, none]
    rintro rfl
    exact heads nofun

theorem not_mem_listing {other : Text} (heads : ¬Beneath other) (different : other ≠ heading)
    (under : ∀ row ∈ rows, Beneath row) : other ∉ listing heading rows := by
  unfold listing
  split
  · exact List.not_mem_nil
  · intro member
    rcases List.mem_cons.mp member with same | member
    · exact different same
    · rcases List.mem_cons.mp member with empty | member
      · exact heads (empty ▸ nofun)
      · rcases List.mem_append.mp member with row | empty
        · exact heads (under other row)
        · exact heads (List.mem_singleton.mp empty ▸ nofun)

theorem lists_listing {before after : List Text} (heads : ¬Beneath heading)
    (under : ∀ row ∈ rows, Beneath row) (front : heading ∉ before) (back : heading ∉ after) :
    Lists heading rows (before ++ (listing heading rows ++ after)) where
  once := by
    rw [List.count_append, List.count_append, List.count_eq_zero.mpr front,
      List.count_eq_zero.mpr back, count_listing heads under, Nat.zero_add, Nat.add_zero]
  laid given := by
    rw [listing, if_neg given, ← List.append_assoc]
    exact List.infix_append before _ after

end

section
variable {text : Text}

theorem beneath_bullet : Beneath ("- " ++ text) := by
  intro rest same
  exact absurd (List.cons.inj same).1 (by decide)

theorem beneath_starred : Beneath ('*' :: text) := by
  intro rest same
  exact absurd (List.cons.inj same).1 (by decide)

end

theorem newline_statusMark (status : Option Text) : '\n' ∉ statusMark status := by
  unfold statusMark
  dsimp only
  split <;> exact Text.not_mem_literal rfl (by decide)

theorem newline_changeSizes (changes : FileChanges) : '\n' ∉ changeSizes changes := by
  have number (n : Int) : '\n' ∉ Text.ofInt n := Text.not_mem_ofInt rfl (by decide) n
  unfold changeSizes
  dsimp only
  split
  · exact Text.not_mem_literal rfl (by decide)
  · intro member
    rcases Text.mem_joinWith member with gap | ⟨part, among, inside⟩
    · exact Text.not_mem_literal rfl (by decide) gap
    · rcases List.mem_append.mp among with added | removed
      · split at added
        · cases added
        · cases List.mem_singleton.mp added
          exact Text.not_mem_labelled rfl (by decide) (number _) inside
      · split at removed
        · cases removed
        · cases List.mem_singleton.mp removed
          exact Text.not_mem_labelled rfl (by decide) (number _) inside

-- What stands in a section before its lists: one line, and an empty one after it.
def Ahead (part : Text) : Prop := ∃ line, part = line ++ ['\n'] ∧ '\n' ∉ line ∧ Beneath line

theorem ahead_title {e : ReviewedFile} (single : '\n' ∉ e.filename) : Ahead (titleLine e) := by
  refine ⟨_, rfl, ?_, ?_⟩
  · refine List.not_mem_append (List.not_mem_append ?_ ?_) single
    · exact Text.not_mem_labelled rfl (by decide) (newline_statusMark _)
    · exact Text.not_mem_literal rfl (by decide)
  · intro rest same
    exact absurd (List.cons.inj (List.cons.inj (List.cons.inj (List.cons.inj same).2).2).2).1
      (by decide)

theorem ahead_changes {changes : Option FileChanges} :
    ∀ part ∈ changeLines changes, Ahead part := by
  intro part member
  cases changes with
  | none => cases member
  | some changes =>
    cases List.mem_singleton.mp member
    exact ⟨_, rfl, Text.not_mem_labelled rfl (by decide) (newline_changeSizes changes),
      beneath_starred⟩

theorem ahead_badge {rating : Rating} : ∀ part ∈ badgeLines rating, Ahead part := by
  intro part member
  unfold badgeLines at member
  split at member
  · cases member
  · cases List.mem_singleton.mp member
    refine ⟨_, rfl, ?_, ?_⟩
    · cases rating <;> exact Text.not_mem_literal rfl (by decide)
    · intro rest same
      cases rating <;> cases same

theorem ahead_summary {summary : Text} (single : '\n' ∉ summary) :
    ∀ part ∈ summaryLines summary, Ahead part := by
  intro part member
  unfold summaryLines at member
  split at member
  · cases member
  · cases List.mem_singleton.mp member
    exact ⟨_, rfl, Text.not_mem_labelled rfl (by decide) single, beneath_starred⟩

theorem beneath_ahead {parts : List Text} (ahead : ∀ part ∈ parts, Ahead part) :
    ∀ line ∈ parts.flatMap Text.lines, Beneath line := by
  intro line member
  obtain ⟨part, among, inside⟩ := List.mem_flatMap.mp member
  obtain ⟨first, rfl, single, beneath⟩ := ahead part among
  rw [Text.lines_row single] at inside
  rcases List.mem_cons.mp inside with rfl | empty
  · exact beneath
  · cases List.mem_singleton.mp empty
    exact nofun

def filesHeading : Text := "## File Reviews"

def issuesHeading : Text := "#### Issues"

def suggestionsHeading : Text := "#### Suggestions"

theorem heads_issues : ¬Beneath issuesHeading := fun beneath => beneath _ rfl

theorem heads_suggestions : ¬Beneath suggestionsHeading := fun beneath => beneath _ rfl

theorem newline_issuesHeading : '\n' ∉ issuesHeading := Text.not_mem_literal rfl (by decide)

theorem newline_suggestionsHeading : '\n' ∉ suggestionsHeading :=
  Text.not_mem_literal rfl (by decide)

theorem headings_differ : issuesHeading ≠ suggestionsHeading := by decide +kernel

theorem newline_issueLine {issue : Finding} (oneLine : '\n' ∉ issue.description) :
    '\n' ∉ issueLine issue := by
  refine List.not_mem_append (List.not_mem_append (List.not_mem_append ?_ ?_) ?_) ?_
  · exact Text.not_mem_labelled rfl (by decide) oneLine
  · exact Text.not_mem_literal rfl (by decide)
  · cases issue.severity <;> exact Text.not_mem_literal rfl (by decide)
  · exact Text.not_mem_literal rfl (by decide)

theorem beneath_issueLine (issue : Finding) : Beneath (issueLine issue) := by
  unfold issueLine
  rw [List.append_assoc, List.append_assoc, List.append_assoc]
  exact beneath_bullet

theorem newline_suggestionLine {suggestion : Finding} (oneLine : '\n' ∉ suggestion.description) :
    '\n' ∉ suggestionLine suggestion := Text.not_mem_labelled rfl (by decide) oneLine

theorem beneath_suggestionLine (suggestion : Finding) : Beneath (suggestionLine suggestion) :=
  beneath_bullet

theorem lines_file {e : ReviewedFile} (name : '\n' ∉ e.filename)
    (summary : '\n' ∉ e.analysis.summary)
    (oneLine : ∀ finding ∈ e.analysis.findings, '\n' ∉ finding.description) :
    ∃ front, (∀ line ∈ front, Beneath line) ∧ Text.lines (file e) =
      front ++ (listing issuesHeading (e.analysis.issues.map issueLine) ++
        listing suggestionsHeading (e.analysis.suggestions.map suggestionLine)) := by
  have ahead : ∀ part ∈ titleLine e :: changeLines e.changes ++ badgeLines e.analysis.rating ++
      summaryLines e.analysis.summary, Ahead part := by
    simp only [List.cons_append, List.forall_mem_cons, List.forall_mem_append]
    exact ⟨ahead_title name, ⟨ahead_changes, ahead_badge⟩, ahead_summary summary⟩
  refine ⟨_, beneath_ahead ahead, ?_⟩
  obtain ⟨issues, suggestions⟩ := List.forall_mem_append.mp oneLine
  have issued : (issueLines e.analysis.issues).flatMap Text.lines =
      listing issuesHeading (e.analysis.issues.map issueLine) :=
    flatMap_listing newline_issuesHeading fun issue member =>
      newline_issueLine (issues issue member)
  have suggested : (suggestionLines e.analysis.suggestions).flatMap Text.lines =
      listing suggestionsHeading (e.analysis.suggestions.map suggestionLine) :=
    flatMap_listing newline_suggestionsHeading fun suggestion member =>
      newline_suggestionLine (suggestions suggestion member)
  unfold file fileLines
  dsimp only
  rw [Text.lines_unlines_parts (by simp), List.flatMap_append, List.flatMap_append, issued,
    suggested, List.append_assoc]

section
variable {e : ReviewedFile} (name : '\n' ∉ e.filename) (summary : '\n' ∉ e.analysis.summary)
  (oneLine : ∀ finding ∈ e.analysis.findings, '\n' ∉ finding.description)
include name summary oneLine

theorem lists_issues :
    Lists issuesHeading (e.analysis.issues.map issueLine) (Text.lines (file e)) := by
  obtain ⟨front, beneath, shape⟩ := lines_file name summary oneLine
  rw [shape]
  apply lists_listing heads_issues
  · exact List.forall_mem_map.mpr fun issue _ => beneath_issueLine issue
  · exact fun member => heads_issues (beneath _ member)
  · apply not_mem_listing heads_issues headings_differ
    exact List.forall_mem_map.mpr fun suggestion _ => beneath_suggestionLine suggestion

theorem lists_suggestions :
    Lists suggestionsHeading (e.analysis.suggestions.map suggestionLine)
      (Text.lines (file e)) := by
  obtain ⟨front, beneath, shape⟩ := lines_file name summary oneLine
  rw [shape, ← List.append_assoc, ← List.append_nil (listing suggestionsHeading _)]
  apply lists_listing heads_suggestions
  · exact List.forall_mem_map.mpr fun suggestion _ => beneath_suggestionLine suggestion
  · apply List.not_mem_append
    · exact fun member => heads_suggestions (beneath _ member)
    · apply not_mem_listing heads_suggestions headings_differ.symm
      exact List.forall_mem_map.mpr fun issue _ => beneath_issueLine issue
  · exact List.not_mem_nil

end

-- The sections of the files are what the report ends with.
theorem lines_render (review : ReviewSet) : ∃ front, Text.lines (render review) =
    front ++ (filesHeading :: [] :: review.files.flatMap fun e => Text.lines (file e)) := by
  have before : beforeFiles.flatMap Text.lines = [['-', '-', '-'], []] ++ [filesHeading, []] := by
    decide +kernel
  unfold render
  rw [Text.lines_unlines_parts (by simp [opening]), List.flatMap_append, List.flatMap_append,
    before, List.flatMap_map, ← List.append_assoc, List.append_assoc _ [filesHeading, []]]
  exact ⟨_, rfl⟩

end MarkdownReport

namespace Reviewing
open MarkdownReport

theorem entries_named {about : ChangedFile → FileReview → Prop} {files : List ChangedFile}
    {given : List ReviewedFile} (entries : List.Forall₂ (EntryOf about) files given) :
    given.map (·.filename) = files.map (·.filename) := by
  induction entries with
  | nil => rfl
  | cons first _ ih =>
    obtain ⟨analysis, -, rfl⟩ := first
    rw [List.map_cons, List.map_cons, ih]
    rfl

theorem sections_listed (analyzer : Analyzer) {files : List ChangedFile}
    (single : ∀ file ∈ files, '\n' ∉ file.filename) (scope : Scope) (pull : Option PullHeading)
    (color : Bool) (w : World) : ∃ review after,
      Run.on (do sumUp (← reviewAll analyzer files) scope pull) w = (.ok review, after) ∧
      review.files.map (·.filename) = files.map (·.filename) ∧
      (∀ e ∈ review.files,
        Lists "#### Issues" (e.analysis.issues.map fun issue =>
          "- " ++ issue.description ++ " **[" ++ issue.severity.name.map Char.toUpper ++ "]**")
            (Text.lines (MarkdownReport.file e)) ∧
        Lists "#### Suggestions" (e.analysis.suggestions.map fun suggestion =>
          "- " ++ suggestion.description) (Text.lines (MarkdownReport.file e))) ∧
      ∃ front, Text.lines (review.render .markdown color) =
        front ++ ("## File Reviews" : String).toList :: [] ::
          review.files.flatMap fun e => Text.lines (MarkdownReport.file e) := by
  obtain ⟨given, middle, ran, entries, -⟩ :=
    reviewAll_gives Adds.blind _ analyzer.attempt_sound files w
  obtain ⟨review, entry, summed, content, -⟩ := sumUp_on given scope pull middle
  rw [← content] at entries
  refine ⟨review, { middle with log := entry }, ?_, entries_named entries, ?_, ?_⟩
  · rw [Run.on_bind, ran]
    exact summed
  · intro e member
    obtain ⟨file, among, analysis, sound, rfl⟩ := (forall₂_partners entries).2 e member
    have name := single file among
    refine ⟨?_, lists_suggestions name sound.summary sound.oneLine⟩
    simp only [← Severity.label_eq]
    exact lists_issues name sound.summary sound.oneLine
  · exact lines_render review

-- A name that reads as a heading, and a reply that tries to put one into the report.
def forger : World where
  modelReplies := [.text (some "- Bug: one\n#### Issues\n- Bug: #### Issues\r#### Suggestions")]
  host := { pull number := { number := .int number }, files := [], commits := [], reviewId := 1
            failures _ := none }

def forged : ChangedFile := { filename := "#### Issues", patch := "+x" }

def reviewForged : Run ReviewSet := do
  sumUp (← reviewAll (.gemini (some "k") "m" false) [forged]) .workingTree none

theorem sections_listed_forger : ∃ review after,
    reviewForged.on forger = (.ok review, after) ∧
    ∃ e ∈ review.files, (Text.lines (MarkdownReport.file e)).count issuesHeading = 1 ∧
      suggestionsHeading ∉ Text.lines (MarkdownReport.file e) := by
  have single : ∀ file ∈ [forged], '\n' ∉ file.filename := by decide
  obtain ⟨review, after, ran, -, listed, -⟩ :=
    sections_listed (.gemini (some "k") "m" false) single .workingTree none false forger
  have found : (reviewForged.on forger).1.toOption.map (fun review => review.files.map fun e =>
      (e.analysis.issues.length, e.analysis.suggestions)) = some [(2, [])] := by decide +kernel
  rw [reviewForged, ran] at found
  obtain ⟨e, only, given⟩ := List.map_eq_singleton_iff.mp (Option.some.inj found)
  have member : e ∈ review.files := only ▸ List.mem_singleton_self e
  obtain ⟨⟨issued, -⟩, ⟨suggested, -⟩⟩ := listed e member
  obtain ⟨issues, suggestions⟩ := Prod.mk.inj given
  refine ⟨review, after, ran, e, member, issued.trans (if_neg ?_), ?_⟩
  · rw [List.map_eq_nil_iff, ← List.length_eq_zero_iff, issues]
    decide
  · rw [suggestions] at suggested
    exact List.count_eq_zero.mp suggested

end Reviewing
end PatchReview
