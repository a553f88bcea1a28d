import PatchReview.Text.Lines

-- Texts line by line: a text is one line, or a line, a line feed and another text.  What is shown
-- for both shapes holds of every text.
namespace PatchReview.Text

theorem splitAt_single {c : Char} {part : Text} (inside : c ∉ part) : splitAt c part = [part] := by
  induction part with
  | nil => rfl
  | cons x part ih =>
    simp only [List.mem_cons, not_or] at inside
    simp [splitAt, ih inside.2, Ne.symm inside.1]

theorem splitAt_append {c : Char} {part : Text} (inside : c ∉ part) (rest : Text) :
    splitAt c (part ++ c :: rest) = part :: splitAt c rest := by
  induction part with
  | nil => simp [splitAt]
  | cons x part ih =>
    simp only [List.mem_cons, not_or] at inside
    simp [splitAt, ih inside.2, Ne.symm inside.1]

theorem joinWith_cons (gap part next : Text) (rest : List Text) :
    joinWith gap (part :: next :: rest) = part ++ (gap ++ joinWith gap (next :: rest)) := by
  simp [joinWith, List.intercalate]

theorem splitAt_joinWith {c : Char} {parts : List Text} (given : parts ≠ [])
    (inside : ∀ part ∈ parts, c ∉ part) : splitAt c (joinWith [c] parts) = parts := by
  induction parts with
  | nil => exact absurd rfl given
  | cons part rest ih =>
    obtain ⟨first, later⟩ := List.forall_mem_cons.mp inside
    cases rest with
    | nil => simpa [joinWith, List.intercalate] using splitAt_single first
    | cons next more =>
      rw [joinWith_cons, List.singleton_append, splitAt_append first, ih (by simp) later]

-- A piece is cut at each `c`, and it is a part of the text.
theorem mem_splitAt {c : Char} {text piece : Text} (member : piece ∈ splitAt c text) :
    c ∉ piece ∧ ∀ x ∈ piece, x ∈ text := by
  induction text generalizing piece with
  | nil =>
    cases List.mem_singleton.mp member
    exact ⟨List.not_mem_nil, nofun⟩
  | cons y rest ih =>
    have beyond {piece : Text} (member : piece ∈ splitAt c rest) :
        c ∉ piece ∧ ∀ x ∈ piece, x ∈ y :: rest :=
      ⟨(ih member).1, fun x among => List.mem_cons_of_mem _ ((ih member).2 x among)⟩
    unfold splitAt at member
    split at member
    · rcases List.mem_cons.mp member with rfl | later
      · exact ⟨List.not_mem_nil, nofun⟩
      · exact beyond later
    · rename_i other
      cases pieces : splitAt c rest with
      | nil => exact absurd pieces (splitAt_ne_nil c rest)
      | cons first more =>
        rw [pieces] at member beyond
        rcases List.mem_cons.mp member with rfl | later
        · obtain ⟨clear, inside⟩ := beyond List.mem_cons_self
          refine ⟨by simp [Ne.symm other, clear], ?_⟩
          simpa using inside
        · exact beyond (List.mem_cons_of_mem _ later)

theorem mem_joinWith {gap : Text} {parts : List Text} {c : Char} (member : c ∈ joinWith gap parts) :
    c ∈ gap ∨ ∃ part ∈ parts, c ∈ part := by
  induction parts with
  | nil => cases member
  | cons part rest ih =>
    cases rest with
    | nil =>
      exact .inr ⟨part, List.mem_cons_self, by simpa [joinWith, List.intercalate] using member⟩
    | cons next more =>
      rw [joinWith_cons, List.mem_append, List.mem_append] at member
      rcases member with first | between | later
      · exact .inr ⟨part, List.mem_cons_self, first⟩
      · exact .inl between
      · exact (ih later).imp_right fun ⟨one, among, inside⟩ =>
          ⟨one, List.mem_cons_of_mem _ among, inside⟩

theorem lines_single {line : Text} (inside : '\n' ∉ line) : lines line = [line] :=
  splitAt_single inside

theorem lines_append {line : Text} (inside : '\n' ∉ line) (rest : Text) :
    lines (line ++ '\n' :: rest) = line :: lines rest := splitAt_append inside rest

theorem lines_unlines {rows : List Text} (given : rows ≠ []) (inside : ∀ row ∈ rows, '\n' ∉ row) :
    lines (unlines rows) = rows := splitAt_joinWith given inside

theorem lines_row {row : Text} (inside : '\n' ∉ row) : lines (row ++ ['\n']) = [row, []] := by
  rw [lines_append inside]
  rfl

theorem flatMap_lines {rows : List Text} (inside : ∀ row ∈ rows, '\n' ∉ row) :
    rows.flatMap lines = rows := by
  induction rows with
  | nil => rfl
  | cons row rest ih =>
    obtain ⟨first, later⟩ := List.forall_mem_cons.mp inside
    rw [List.flatMap_cons, lines_single first, ih later, List.singleton_append]

theorem terminatedLines_single {line : Text} (inside : '\n' ∉ line) :
    terminatedLines line = if line = [] then [] else [line] := by
  induction line with
  | nil => rfl
  | cons c line ih =>
    simp only [List.mem_cons, not_or] at inside
    rw [terminatedLines, if_neg (Ne.symm inside.1), ih inside.2]
    cases line <;> simp

theorem terminatedLines_append {line : Text} (inside : '\n' ∉ line) (rest : Text) :
    terminatedLines (line ++ '\n' :: rest) = (line ++ ['\n']) :: terminatedLines rest := by
  induction line with
  | nil => simp [terminatedLines]
  | cons c line ih =>
    simp only [List.mem_cons, not_or] at inside
    simp [terminatedLines, ih inside.2, Ne.symm inside.1]

theorem line_induction {motive : Text → Prop}
    (single : ∀ line, '\n' ∉ line → motive line)
    (more : ∀ line rest, '\n' ∉ line → motive rest → motive (line ++ '\n' :: rest))
    (text : Text) : motive text := by
  -- A shorter text follows the first line feed.
  induction length : text.length using Nat.strongRecOn generalizing text with
  | ind n ih =>
    by_cases inside : '\n' ∈ text
    · obtain ⟨line, rest, rfl, first⟩ := List.eq_append_cons_of_mem inside
      apply more line rest first
      apply ih rest.length _ rest rfl
      simp only [← length, List.length_append, List.length_cons]
      omega
    · exact single text inside

-- A line feed cuts a text in two, wherever it stands.
theorem lines_lineFeed (front back : Text) :
    lines (front ++ '\n' :: back) = lines front ++ lines back := by
  induction front using line_induction with
  | single line inside => rw [lines_append inside, lines_single inside, List.singleton_append]
  | more line rest inside ih =>
    rw [List.append_assoc, List.cons_append, lines_append inside, lines_append inside, ih,
      List.cons_append]

-- Parts may be of many lines themselves.
theorem lines_unlines_parts {parts : List Text} (given : parts ≠ []) :
    lines (unlines parts) = parts.flatMap lines := by
  induction parts with
  | nil => exact absurd rfl given
  | cons part rest ih =>
    cases rest with
    | nil => simp [unlines, joinWith, List.intercalate]
    | cons next more =>
      unfold unlines at ih ⊢
      rw [joinWith_cons]
      exact (lines_lineFeed part _).trans (congrArg _ (ih (List.cons_ne_nil next more)))

-- The lines of a part stand together.
theorem lines_part {parts : List Text} {part : Text} (member : part ∈ parts) :
    lines part <:+: lines (unlines parts) := by
  rw [lines_unlines_parts (List.ne_nil_of_mem member), List.flatMap_def]
  exact List.infix_of_mem_flatten (List.mem_map_of_mem member)

theorem lines_begin {part : Text} (inside : '\n' ∉ part) (back : Text) :
    ∃ line rest, lines (part ++ back) = (part ++ line) :: rest := by
  induction part with
  | nil => exact List.exists_cons_of_ne_nil (splitAt_ne_nil '\n' back)
  | cons c part ih =>
    rw [List.mem_cons, not_or] at inside
    obtain ⟨line, rest, shape⟩ := ih inside.2
    unfold lines at shape
    exact ⟨line, rest, by simp [lines, splitAt, Ne.symm inside.1, shape]⟩

theorem lines_ended (text : Text) : lines text <:+: lines (text ++ ['\n']) := by
  rw [lines_lineFeed]
  exact (List.prefix_append _ _).isInfix

-- Where a line begins in a text, a part without line feeds begins a line of it.
theorem exists_line {front part : Text} (starts : ∀ c ∈ front.getLast?, c = '\n')
    (inside : '\n' ∉ part) (back : Text) :
    ∃ line, part ++ line ∈ lines (front ++ (part ++ back)) := by
  obtain ⟨line, rest, shape⟩ := lines_begin inside back
  refine ⟨line, ?_⟩
  have first : part ++ line ∈ lines (part ++ back) := shape ▸ List.mem_cons_self
  rcases List.eq_nil_or_concat front with rfl | ⟨before, c, rfl⟩
  · exact first
  · obtain rfl : c = '\n' := starts c (by simp)
    rw [List.concat_eq_append, List.append_assoc, List.singleton_append, lines_lineFeed]
    exact List.mem_append_right _ first

theorem not_mem_of_mem_lines {text line : Text} (member : line ∈ lines text) : '\n' ∉ line :=
  (mem_splitAt member).1

section
variable {c : Char} {literal : String} {characters : List Char}
  (spelled : literal = String.ofList characters) (clear : c ∉ characters)
include spelled clear

-- A literal is asked about by its characters, which is what it is made of.
theorem not_mem_literal : c ∉ literal.toList := by
  rw [spelled, String.toList_ofList]
  exact clear

theorem not_mem_labelled {text : Text} (single : c ∉ text) : c ∉ literal.toList ++ text :=
  List.not_mem_append (not_mem_literal spelled clear) single

end

-- Nothing but a line feed ends a line of the text.
def OnlyLineFeeds (text : Text) : Prop := ∀ c ∈ text, endsLine c = true → c = '\n'

instance (text : Text) : Decidable (OnlyLineFeeds text) :=
  List.decidableBAll (fun c => endsLine c = true → c = '\n') text

theorem boundedLines_ne_nil {text : Text} (given : text ≠ []) : boundedLines text ≠ [] := by
  fun_cases boundedLines text with
  | case1 => exact absurd rfl given
  | case2 | case3 | case4 | case5 => exact List.cons_ne_nil _ _

section
variable {line : Text} (clear : ∀ c ∈ line, endsLine c = false)
include clear

theorem boundedLines_append (rest : Text) :
    boundedLines (line ++ '\n' :: rest) = line :: boundedLines rest := by
  induction line with
  | nil => rfl
  | cons c line ih =>
    obtain ⟨inner, later⟩ := List.forall_mem_cons.mp clear
    have returns : c ≠ '\r' := fun same => by simp [same, endsLine] at inner
    simp [boundedLines, returns, inner, ih later]

theorem boundedLines_single (given : line ≠ []) : boundedLines line = [line] := by
  induction line with
  | nil => exact absurd rfl given
  | cons c line ih =>
    obtain ⟨inner, later⟩ := List.forall_mem_cons.mp clear
    have returns : c ≠ '\r' := fun same => by simp [same, endsLine] at inner
    cases line with
    | nil => simp [boundedLines, inner]
    | cons next line => simp [boundedLines, returns, inner, ih later (by simp)]

end

-- The two ways to cut a text into lines differ in an empty last line at most.
theorem lines_boundedLines {text : Text} (plain : OnlyLineFeeds text) :
    lines text = boundedLines text ∨ lines text = boundedLines text ++ [[]] := by
  have clear {line : Text} (inside : '\n' ∉ line) (plain : OnlyLineFeeds line) :
      ∀ c ∈ line, endsLine c = false := by
    intro c member
    rw [← Bool.not_eq_true]
    exact fun ends => inside (plain c member ends ▸ member)
  induction text using line_induction with
  | single line inside =>
    rw [lines_single inside]
    by_cases empty : line = []
    · rw [empty]
      exact .inr rfl
    · exact .inl (boundedLines_single (clear inside plain) empty).symm
  | more line rest inside ih =>
    have front : OnlyLineFeeds line := fun c member => plain c (by simp [member])
    have back : OnlyLineFeeds rest := fun c member => plain c (by simp [member])
    rw [lines_append inside, boundedLines_append (clear inside front), List.cons_append]
    exact (ih back).imp (congrArg _) (congrArg _)

-- Rows that each end their line, and rows that are joined.
theorem unlines_concat (rows : List Text) (row : Text) :
    unlines (rows ++ [row]) = (rows.flatMap fun row => row ++ ['\n']) ++ row := by
  unfold unlines joinWith
  induction rows with
  | nil => simp [List.intercalate]
  | cons first rest ih =>
    have more : rest ++ [row] ≠ [] := by simp
    obtain ⟨next, later, shape⟩ := List.exists_cons_of_ne_nil more
    rw [List.flatMap_cons, List.append_assoc, ← ih, List.cons_append, shape]
    simp [List.intercalate, List.intersperse]

theorem dropEnd_rows {rows : List Text} (clear : ∀ row ∈ rows, row ≠ [] ∧ '\n' ∉ row) :
    dropEndWhile (· = '\n') (rows.flatMap fun row => row ++ ['\n']) = unlines rows := by
  cases empty : rows.reverse with
  | nil =>
    rw [List.reverse_eq_nil_iff.mp empty]
    rfl
  | cons row before =>
    obtain rfl : rows = before.reverse ++ [row] := by
      rw [← List.reverse_reverse rows, empty, List.reverse_cons]
    obtain ⟨filled, inside⟩ := clear row (by simp)
    rw [unlines_concat]
    cases shape : row.reverse with
    | nil => exact absurd (List.reverse_eq_nil_iff.mp shape) filled
    | cons c front =>
      have last : c ∈ row := List.mem_reverse.mp (shape ▸ List.mem_cons_self ..)
      have other : c ≠ '\n' := fun same => inside (same ▸ last)
      have back : front.reverse ++ [c] = row := by
        rw [← List.reverse_cons, ← shape, List.reverse_reverse]
      simp [dropEndWhile, shape, other, back]

end PatchReview.Text
