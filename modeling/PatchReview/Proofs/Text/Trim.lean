import Mathlib.Data.List.TakeWhile
import PatchReview.Text.CharClass

-- Trimming.  It takes blank characters from both ends, so nothing is left of a text exactly when
-- the text is blank throughout, and what is left neither starts nor ends with one.
namespace PatchReview.Text

theorem dropEndWhile_eq_nil_iff {p : Char → Bool} {text : Text} :
    dropEndWhile p text = [] ↔ ∀ c ∈ text, p c = true := by
  unfold dropEndWhile
  simp only [List.reverse_eq_nil_iff, List.dropWhile_eq_nil_iff, List.mem_reverse]

-- What is dropped at the end, and what is left in front of it.
theorem exists_dropEndWhile (p : Char → Bool) (text : Text) :
    ∃ dropped, text = dropEndWhile p text ++ dropped ∧ ∀ c ∈ dropped, p c = true := by
  refine ⟨(text.reverse.takeWhile p).reverse, ?_, ?_⟩
  · rw [dropEndWhile, ← List.reverse_append, List.takeWhile_append_dropWhile, List.reverse_reverse]
  · intro c member
    exact List.mem_takeWhile_imp (List.mem_reverse.mp member)

theorem last_dropEndWhile {p : Char → Bool} {text : Text} :
    ∀ c ∈ (dropEndWhile p text).getLast?, p c = false := by
  intro c last
  have stopped := List.head?_dropWhile_not p text.reverse
  rw [dropEndWhile, List.getLast?_reverse] at last
  rw [Option.mem_def.mp last] at stopped
  exact stopped

theorem trimWhile_eq_nil_iff {p : Char → Bool} {text : Text} :
    trimWhile p text = [] ↔ ∀ c ∈ text, p c = true := by
  unfold trimWhile
  rw [dropEndWhile_eq_nil_iff]
  constructor
  · intro rest c member
    rw [← List.takeWhile_append_dropWhile (p := p) (l := text)] at member
    rcases List.mem_append.mp member with front | back
    · exact List.mem_takeWhile_imp front
    · exact rest c back
  · intro all c member
    exact all c (List.dropWhile_sublist p |>.subset member)

theorem trim_eq_nil_iff {text : Text} : trim text = [] ↔ ∀ c ∈ text, isBlank c = true :=
  trimWhile_eq_nil_iff

-- No blank character at either end.
def IsTrimmed (text : Text) : Prop :=
  (∀ c ∈ text.head?, isBlank c = false) ∧ ∀ c ∈ text.getLast?, isBlank c = false

theorem isTrimmed_trim (text : Text) : IsTrimmed (trim text) := by
  refine ⟨?_, last_dropEndWhile⟩
  intro c first
  -- Nothing is dropped in front of the first character that was left there.
  obtain ⟨dropped, cut, -⟩ := exists_dropEndWhile isBlank (text.dropWhile isBlank)
  have stopped := List.head?_dropWhile_not isBlank text
  obtain ⟨rest, shape⟩ := List.head?_eq_some_iff.mp (Option.mem_def.mp first)
  rw [trim, trimWhile] at shape
  rw [cut, shape] at stopped
  exact stopped

theorem isInfix_trimWhile (p : Char → Bool) (text : Text) : trimWhile p text <:+: text := by
  have front : dropEndWhile p (text.dropWhile p) <+: text.dropWhile p := by
    unfold dropEndWhile
    exact List.reverse_suffix.mp (by simpa using List.dropWhile_suffix p)
  exact front.isInfix.trans (List.dropWhile_suffix p).isInfix

-- Trimming loses blank characters only.
theorem filter_trim {kept : Char → Bool} (blank : ∀ c, isBlank c = true → kept c = false)
    (text : Text) : (trim text).filter kept = text.filter kept := by
  have gone {run : Text} (all : ∀ c ∈ run, isBlank c = true) : run.filter kept = [] :=
    List.filter_eq_nil_iff.mpr fun c member => by simp [blank c (all c member)]
  obtain ⟨dropped, cut, behind⟩ := exists_dropEndWhile isBlank (text.dropWhile isBlank)
  have front : ∀ c ∈ text.takeWhile isBlank, isBlank c = true :=
    fun c member => List.mem_takeWhile_imp member
  have whole : text = text.takeWhile isBlank ++ (trim text ++ dropped) := by
    rw [trim, trimWhile, ← cut, List.takeWhile_append_dropWhile]
  calc (trim text).filter kept
    _ = (text.takeWhile isBlank ++ (trim text ++ dropped)).filter kept := by
      rw [List.filter_append, List.filter_append, gone front, gone behind, List.nil_append,
        List.append_nil]
    _ = text.filter kept := by rw [← whole]

-- A part of a line stays in the line.
theorem newline_trim {line : Text} (inside : '\n' ∉ line) : '\n' ∉ trim line :=
  fun feed => inside ((isInfix_trimWhile isBlank line).subset feed)

end PatchReview.Text
