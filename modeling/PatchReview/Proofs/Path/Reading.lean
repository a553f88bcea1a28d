import PatchReview.Path
import PatchReview.Proofs.Text.Lines

-- Paths and the texts that they are written as.  A path that was read is read again from its own
-- text, and that text has no character that was not given, apart from slashes and dots.
namespace PatchReview

namespace Name

@[simp] theorem text_ofText (text : Text) : (ofText text).text = text := by
  simp [Name.text, points, ofText, Text.ofCodePoints, NamePart.point, Text.CodePoint.shown,
    Function.comp_def]

theorem intercalate_cons (gap name next : Name) (rest : List Name) :
    gap.intercalate (name :: next :: rest) = name ++ (gap ++ gap.intercalate (next :: rest)) := by
  simp [List.intercalate]

-- Names that are text, put together, are the texts put together.
theorem intercalate_ofText (gap : Text) (names : List Text) :
    (ofText gap).intercalate (names.map ofText) = ofText (Text.joinWith gap names) := by
  induction names with
  | nil => rfl
  | cons name rest ih =>
    cases rest with
    | nil => simp [Text.joinWith, List.intercalate]
    | cons next more =>
      rw [List.map_cons, List.map_cons, intercalate_cons, ← List.map_cons, ih, Text.joinWith_cons]
      simp [ofText]

end Name

namespace Path

-- A name as it stands in a path that was read.
structure IsName (name : Text) : Prop where
  given : name ≠ []
  elsewhere : name ≠ ['.']
  single : '/' ∉ name

-- The names of a text, as it is read.
def namesOf (text : Text) : List Text :=
  (Text.splitAt '/' text).filter fun name => !name.isEmpty && name ≠ ['.']

theorem isName_namesOf (text : Text) : ∀ name ∈ namesOf text, IsName name := by
  intro name member
  obtain ⟨piece, kept⟩ := List.mem_filter.mp member
  simp only [Bool.and_eq_true, Bool.not_eq_true', decide_eq_true_eq] at kept
  refine ⟨?_, kept.2, (Text.mem_splitAt piece).1⟩
  rintro rfl
  cases kept.1

-- A path of names that are text, as it is written.
theorem whole_ofTexts (root : Text) (names : List Text) :
    (Path.mk root (names.map .ofText)).whole = Name.ofText
      (if root.isEmpty ∧ names.isEmpty then ['.'] else root ++ Text.joinWith ['/'] names) := by
  unfold whole
  rw [List.isEmpty_map]
  split
  · rfl
  · change Name.ofText root ++ (Name.ofText ['/']).intercalate _ = _
    rw [Name.intercalate_ofText]
    simp [Name.ofText]

theorem text_ofTexts (root : Text) (names : List Text) :
    (Path.mk root (names.map .ofText)).text =
      if root.isEmpty ∧ names.isEmpty then ['.'] else root ++ Text.joinWith ['/'] names := by
  unfold text
  rw [whole_ofTexts, Name.text_ofText]

def IsRoot (root : Text) : Prop := root = [] ∨ root = ['/'] ∨ root = ['/', '/']

theorem isRoot_rootOf (text : Text) : IsRoot (rootOf text) := by
  fun_cases rootOf text with
  | case1 | case3 => exact .inr (.inl rfl)
  | case2 => exact .inr (.inr rfl)
  | case4 => exact .inl rfl

-- The names of a text, as they stand between its slashes.
theorem namesOf_joinWith {names : List Text} (proper : ∀ name ∈ names, IsName name) :
    namesOf (Text.joinWith ['/'] names) = names := by
  unfold namesOf
  cases names with
  | nil => rfl
  | cons first rest =>
    rw [Text.splitAt_joinWith (List.cons_ne_nil _ _) fun name member => (proper name member).single]
    rw [List.filter_eq_self]
    intro name member
    have given := (proper name member).given
    have elsewhere := (proper name member).elsewhere
    simp [given, elsewhere]

theorem rootOf_append {root rest : Text} (known : IsRoot root) (inside : rest.head? ≠ some '/') :
    rootOf (root ++ rest) = root := by
  cases rest with
  | nil => rcases known with rfl | rfl | rfl <;> rfl
  | cons c rest =>
    have other : c ≠ '/' := fun same => inside (congrArg some same)
    rcases known with rfl | rfl | rfl <;> simp [rootOf, other]

theorem head?_joinWith {names : List Text} (proper : ∀ name ∈ names, IsName name) :
    (Text.joinWith ['/'] names).head? ≠ some '/' := by
  cases names with
  | nil => exact nofun
  | cons first rest =>
    obtain ⟨given, -, single⟩ := proper first List.mem_cons_self
    obtain ⟨c, more, rfl⟩ := List.exists_cons_of_ne_nil given
    have other : c ≠ '/' := fun same => single (same ▸ List.mem_cons_self)
    cases rest <;> simpa [Text.joinWith, List.intercalate] using other

theorem ofText_text {root : Text} {names : List Text} (known : IsRoot root)
    (proper : ∀ name ∈ names, IsName name) :
    ofText (Path.mk root (names.map .ofText)).text = ⟨root, names.map .ofText⟩ := by
  have edge := head?_joinWith proper
  have kept := namesOf_joinWith proper
  have start := rootOf_append known edge
  rw [text_ofTexts]
  split
  · rename_i bare
    obtain ⟨noRoot, noNames⟩ := bare
    rw [List.isEmpty_iff] at noRoot noNames
    cases noRoot
    cases noNames
    rfl
  · change Path.mk (rootOf (root ++ Text.joinWith ['/'] names)) ((namesOf _).map _) = _
    rw [start]
    congr 2
    rcases known with rfl | rfl | rfl
    · exact kept
    · exact kept
    · exact kept

theorem mem_text {given : Text} {c : Char} (member : c ∈ (ofText given).text) :
    c ∈ given ∨ c = '/' ∨ c = '.' := by
  change c ∈ (Path.mk (rootOf given) ((namesOf given).map .ofText)).text at member
  rw [text_ofTexts] at member
  split at member
  · exact .inr (.inr (List.mem_singleton.mp member))
  · rcases List.mem_append.mp member with root | joined
    · rcases isRoot_rootOf given with none | one | two
      all_goals simp_all
    · rcases Text.mem_joinWith joined with slash | ⟨name, among, inside⟩
      · exact .inr (.inl (List.mem_singleton.mp slash))
      · exact .inl ((Text.mem_splitAt (List.mem_filter.mp among).1).2 c inside)

-- A path that is the same when it is read from its text, as a path that a text can be.
structure ReadsBack (path : Path) : Prop where
  same : ofText path.text = path
  clear : '\x00' ∉ path.text

theorem readsBack_ofText {given : Text} (clear : '\x00' ∉ given) : ReadsBack (ofText given) := by
  refine ⟨ofText_text (isRoot_rootOf given) (isName_namesOf given), ?_⟩
  intro member
  rcases mem_text member with null | slash | dot
  · exact clear null
  · cases slash
  · cases dot

end Path
end PatchReview
