import PatchReview.Rule.Table
import PatchReview.Proofs.Pattern.Denotes

-- When the rules fire.  Each rule fires on exactly the texts in which some piece belongs to the
-- language of its pattern; greed, order and the way back of the matcher do not show.  Texts have
-- no half pairs of surrogates in them.
namespace PatchReview

namespace Pattern

theorem denotes_exactly (word left piece right : Text) :
    (exactly word).plain.Denotes false left piece right ↔ piece = word := by
  induction word generalizing left piece with
  | nil => rfl
  | cons c word ih =>
    have parts : (exactly (c :: word)).plain = seq (char (.oneOf [c])) (exactly word).plain := rfl
    rw [parts]
    simp only [Denotes, ih, CharSet.Names, List.mem_singleton]
    constructor
    · intro there
      obtain ⟨first, second, shape, ⟨x, single, m, same, named⟩, rest⟩ := there
      rcases named with rfl | ⟨off, -⟩
      · rw [shape, single, rest, same]
        rfl
      · cases off
    · intro shape
      exact ⟨[c], word, shape, ⟨c, rfl, c, rfl, .inl rfl⟩, rfl⟩

end Pattern

namespace RuleTable

-- The line rules to which case matters.
def caseSensitive : List Text :=
  ["AWS Key", "GitHub Token", "Marker Comment", "Promise Chain", "Long Line"]

def ignoresCase (rule : LineRule) : Bool := !caseSensitive.contains rule.name

theorem lineRules_marks : ∀ rule ∈ lineRules, rule.pattern.marks (ignoresCase rule) = true := by
  decide +kernel

theorem patchRules_marks : ∀ rule ∈ patchRules, rule.pattern.marks false = true := by decide +kernel

theorem lineRule_fires {rule : LineRule} (member : rule ∈ lineRules) (line : Text) :
    rule.fires line = true ↔ rule.pattern.plain.Occurs (ignoresCase rule) line :=
  Pattern.foundIn_iff_occurs (lineRules_marks rule member) line

theorem sensitiveRule_fires {rule : LineRule} (member : rule ∈ lineRules)
    (sensitive : ignoresCase rule = false) (line : Text) :
    rule.fires line = true ↔ rule.pattern.plain.Occurs false line := by
  rw [lineRule_fires member, sensitive]

theorem patchRule_fires {rule : PatchRule} (member : rule ∈ patchRules) (patch : Text) :
    rule.fires patch = true ↔ rule.pattern.plain.Occurs false patch :=
  Pattern.foundIn_iff_occurs (patchRules_marks rule member) patch

theorem emptyCatch_next (bare : Text) :
    emptyCatch.next.matchesAll bare = true ↔ bare = "\x7d".toList ∨ bare = "pass".toList := by
  have marked : emptyCatch.next.marks false = true := by decide +kernel
  rw [Pattern.matchesAll_iff marked]
  change (Pattern.exactly "\x7d").plain.Denotes false [] bare [] ∨
    (Pattern.exactly "pass").plain.Denotes false [] bare [] ↔ _
  rw [Pattern.denotes_exactly, Pattern.denotes_exactly]

theorem emptyCatch_fires (line : Text) (following : Option Text) :
    emptyCatch.fires line following = true ↔
      emptyCatch.pattern.plain.Occurs false line ∧ ∃ next, following = some next ∧
        (Text.trim (dropDiffMarker next) = "\x7d".toList ∨
          Text.trim (dropDiffMarker next) = "pass".toList) := by
  have marked : emptyCatch.pattern.marks false = true := by decide +kernel
  unfold LookaheadRule.fires
  cases following with
  | none => simp
  | some next =>
    rw [Bool.and_eq_true, Pattern.foundIn_iff_occurs marked, emptyCatch_next]
    simp

open Classical in
-- Every rule fires by the language of its pattern: letters are compared without case for the rules
-- that ignore it, a look-ahead rule also asks for the next line, and the rules that fire on a line
-- are reported in the order of the table.
theorem fires_iff :
    (∀ rule ∈ lineRules, ∀ line,
      rule.fires line = true ↔ rule.pattern.plain.Occurs (ignoresCase rule) line) ∧
    (∀ rule ∈ lookaheadRules, ∀ line following,
      rule.fires line following = true ↔
        rule.pattern.plain.Occurs false line ∧ ∃ next, following = some next ∧
          (Text.trim (dropDiffMarker next) = "\x7d".toList ∨
            Text.trim (dropDiffMarker next) = "pass".toList)) ∧
    (∀ rule ∈ patchRules, ∀ patch,
      rule.fires patch = true ↔ rule.pattern.plain.Occurs false patch) ∧
    ∀ line, firing line =
      (lineRules.filter fun rule => rule.pattern.plain.Occurs (ignoresCase rule) line).map
        fun rule => (rule.name, rule.severity) := by
  refine ⟨fun rule => lineRule_fires, ?_, fun rule => patchRule_fires, ?_⟩
  · intro rule member line following
    rw [List.mem_singleton.mp member]
    exact emptyCatch_fires line following
  · intro line
    unfold firing
    congr 1
    apply List.filter_congr
    intro rule member
    rw [Bool.eq_iff_iff, lineRule_fires member, decide_eq_true_eq]

-- The middle part takes every plus sign at first and gives one back.
example : firing "query = 'a' + b + c + 'd'" = [("SQL Injection Risk".toList, .medium)] := by
  decide +kernel

end RuleTable
end PatchReview
