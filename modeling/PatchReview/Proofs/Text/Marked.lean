import PatchReview.Proofs.Text.Lines
import PatchReview.Proofs.Text.Trim

-- Lines counted by the character that they start with.  The count goes through a text part by part,
-- as long as no part but the last leaves its last line open, and the line feeds at the end of a
-- text do not matter to it.
namespace PatchReview.Text

def markedLines (mark : Char) (text : Text) : Nat :=
  (lines text).countP fun line => line.head? = some mark

-- Every line of the text ends in a line feed.
def Ended (text : Text) : Prop := text = [] ∨ ∃ front, text = front ++ ['\n']

section
variable {front back text : Text}

theorem Ended.append (one : Ended front) (two : Ended back) : Ended (front ++ back) := by
  rcases two with rfl | ⟨inner, rfl⟩
  · rwa [List.append_nil]
  · exact .inr ⟨front ++ inner, (List.append_assoc ..).symm⟩

theorem Ended.flatMap {α : Type} {f : α → Text} {items : List α}
    (each : ∀ item ∈ items, Ended (f item)) : Ended (items.flatMap f) := by
  induction items with
  | nil => exact .inl rfl
  | cons item rest ih =>
    obtain ⟨first, later⟩ := List.forall_mem_cons.mp each
    exact first.append (ih later)

variable (mark : Char)

theorem markedLines_nil : markedLines mark [] = 0 := rfl

theorem markedLines_line {line : Text} (inside : '\n' ∉ line) :
    markedLines mark line = if line.head? = some mark then 1 else 0 := by
  rw [markedLines, lines_single inside, List.countP_singleton]
  simp

-- A line feed ends a line and starts another.
theorem markedLines_lineFeed (front back : Text) :
    markedLines mark (front ++ '\n' :: back) = markedLines mark front + markedLines mark back := by
  rw [markedLines, lines_lineFeed, List.countP_append]
  rfl

theorem markedLines_row {row : Text} (inside : '\n' ∉ row) :
    markedLines mark (row ++ ['\n']) = if row.head? = some mark then 1 else 0 := by
  rw [markedLines_lineFeed, markedLines_line mark inside, markedLines_nil, Nat.add_zero]

theorem markedLines_append (ended : Ended front) (back : Text) :
    markedLines mark (front ++ back) = markedLines mark front + markedLines mark back := by
  rcases ended with rfl | ⟨inner, rfl⟩
  · rw [List.nil_append, markedLines_nil, Nat.zero_add]
  · rw [List.append_assoc, List.singleton_append, markedLines_lineFeed, markedLines_lineFeed,
      markedLines_nil, Nat.add_zero]

theorem markedLines_flatMap {α : Type} {f : α → Text} {items : List α}
    (each : ∀ item ∈ items, Ended (f item)) :
    markedLines mark (items.flatMap f) =
      (items.map fun item => markedLines mark (f item)).foldr (· + ·) 0 := by
  induction items with
  | nil => rfl
  | cons item rest ih =>
    obtain ⟨first, later⟩ := List.forall_mem_cons.mp each
    rw [List.flatMap_cons, markedLines_append mark first, ih later, List.map_cons, List.foldr_cons]

theorem markedLines_joined {rows : List Text} (given : rows ≠ [])
    (inside : ∀ row ∈ rows, '\n' ∉ row) :
    markedLines mark (unlines rows) = rows.countP fun row => row.head? = some mark := by
  rw [markedLines, lines_unlines given inside]

-- What is dropped at the end are line feeds, and the lines that they end are empty.
theorem markedLines_dropEnd (text : Text) :
    markedLines mark (dropEndWhile (· = '\n') text) = markedLines mark text := by
  obtain ⟨dropped, cut, all⟩ := exists_dropEndWhile (· = '\n') text
  have kept (feeds front : Text) (all : ∀ c ∈ feeds, c = '\n') :
      markedLines mark (front ++ feeds) = markedLines mark front := by
    induction feeds generalizing front with
    | nil => rw [List.append_nil]
    | cons c rest ih =>
      obtain ⟨rfl, later⟩ := List.forall_mem_cons.mp all
      rw [markedLines_lineFeed, ← List.nil_append rest, ih [] later, markedLines_nil, Nat.add_zero]
  have same := kept dropped (dropEndWhile (· = '\n') text) (by simpa using all)
  rw [← cut] at same
  exact same.symm

end
end PatchReview.Text
