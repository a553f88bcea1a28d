import PatchReview.Proofs.Rule.Surroundings
import PatchReview.Proofs.Rule.Token

-- Promise chains.  What must not stand in a line is looked for from its start, so a word `await`
-- anywhere in the line, in front of the call or behind it, keeps the rule from firing; and it must
-- be a word of its own, which `awaited` is not.
namespace PatchReview
namespace RuleTable

open Pattern

theorem isWordPiece_await : Text.IsWordPiece "await" := ⟨by decide, List.all_eq_true.mp (by decide)⟩

section
variable {left piece right : Text}

theorem awaiting_denotes :
    awaiting.plain.Denotes false left piece right ↔
      piece = "await".toList ∧ ¬ EndsInWord left ∧ ¬ StartsInWord right := by
  have shape : awaiting.plain =
      seq wordEdge (seq (exactly "await").plain (seq wordEdge nothing)) := rfl
  have word := isWordPiece_await
  rw [shape, denotes_edge_first, denotes_exactly_first]
  constructor
  · intro given
    obtain ⟨edge, rest, parts, inside⟩ := given
    obtain ⟨rfl, far⟩ := denotes_edge_last.mp inside
    rw [List.append_nil] at parts
    subst parts
    exact ⟨rfl, (word.edge_front left right).mp edge, (word.edge_back left right).mp far⟩
  · intro given
    obtain ⟨rfl, before, behind⟩ := given
    refine ⟨(word.edge_front left right).mpr before, [], rfl, ?_⟩
    exact denotes_edge_last.mpr ⟨rfl, (word.edge_back left right).mpr behind⟩

theorem chaining_denotes :
    chaining.plain.Denotes false left piece right ↔
      ∃ gap, piece = ".then".toList ++ gap ++ ['('] ∧ ∀ c ∈ gap, Text.isBlank c = true := by
  have shape : chaining.plain = seq (exactly ".then").plain
      (seq (many .blank 0 none) (seq (exactly "(").plain nothing)) := rfl
  rw [shape, denotes_exactly_first]
  simp only [denotes_any_first, denotes_exactly_first]
  constructor
  · intro given
    obtain ⟨rest, parts, gap, last, more, blank, ends, bracket, empty⟩ := given
    obtain rfl : ends = [] := empty
    refine ⟨gap, ?_, blank⟩
    rw [parts, more, bracket, List.append_assoc]
    rfl
  · intro given
    obtain ⟨gap, parts, blank⟩ := given
    rw [List.append_assoc] at parts
    exact ⟨_, parts, gap, _, rfl, blank, [], rfl, rfl⟩

end

theorem awaiting_occurs (text : Text) :
    awaiting.plain.Occurs false text ↔ Text.HasWordRun text "await" := by
  constructor
  · intro given
    obtain ⟨left, piece, right, cut, inside⟩ := given
    obtain ⟨rfl, before, behind⟩ := awaiting_denotes.mp inside
    exact ⟨left, right, cut, isWordPiece_await, before, behind⟩
  · intro given
    obtain ⟨left, right, cut, _, before, behind⟩ := given
    exact ⟨left, _, right, cut, awaiting_denotes.mpr ⟨rfl, before, behind⟩⟩

-- A call of `then`: its name behind a dot, blank space or none, and a bracket that opens.
def HoldsThenCall (text : Text) : Prop :=
  ∃ left gap right, text = left ++ ".then".toList ++ gap ++ '(' :: right ∧
    ∀ c ∈ gap, Text.isBlank c = true

theorem chaining_occurs (text : Text) : chaining.plain.Occurs false text ↔ HoldsThenCall text := by
  constructor
  · intro given
    obtain ⟨left, piece, right, cut, inside⟩ := given
    obtain ⟨gap, rfl, blank⟩ := chaining_denotes.mp inside
    refine ⟨left, gap, right, ?_, blank⟩
    rw [cut]
    simp only [List.append_assoc, List.cons_append, List.nil_append]
  · intro given
    obtain ⟨left, gap, right, cut, blank⟩ := given
    refine ⟨left, _, right, ?_, chaining_denotes.mpr ⟨gap, rfl, blank⟩⟩
    rw [cut]
    simp only [List.append_assoc, List.cons_append, List.nil_append]

-- In a text of one line whatever stands before a piece stands in its line.
theorem occursBehind_inLine {p : Pattern} {line : Text} (oneLine : '\n' ∉ line) :
    p.OccursBehind false (CharSet.inLine.plain.Names false) line ↔ p.Occurs false line := by
  constructor
  · intro given
    obtain ⟨left, piece, right, cut, _, inside⟩ := given
    exact ⟨left, piece, right, cut, inside⟩
  · intro given
    obtain ⟨left, piece, right, cut, inside⟩ := given
    refine ⟨left, piece, right, cut, ?_, inside⟩
    intro c member
    apply inLine_names.mpr
    intro feed
    apply oneLine
    rw [cut, ← feed]
    simp [member]

-- The rule fires exactly on the lines that hold a call of `then` and no word `await`.
theorem promiseChain_unawaited {line : Text} (oneLine : '\n' ∉ line) :
    promiseChain.fires line = true ↔ HoldsThenCall line ∧ ¬ Text.HasWordRun line "await" := by
  rw [promiseChain_fires, occursBehind_inLine oneLine, occursBehind_inLine oneLine,
    awaiting_occurs, chaining_occurs, and_comm]

-- In front of the call stands a longer word, which hides nothing; behind it stands the word itself.
theorem promiseChain_unawaited_behind :
    '\n' ∉ "awaited.then (f); await g".toList ∧
    (promiseChain.fires "awaited.then (f); await g" = true ↔
      HoldsThenCall "awaited.then (f); await g" ∧
        ¬ Text.HasWordRun "awaited.then (f); await g" "await") ∧
    promiseChain.fires "awaited.then (f); await g" = false := by
  have oneLine : '\n' ∉ "awaited.then (f); await g".toList := by decide
  exact ⟨oneLine, promiseChain_unawaited oneLine, by decide +kernel⟩

example : promiseChain.fires "awaited.then (f); awaits g" = true := by decide +kernel

end RuleTable
end PatchReview
