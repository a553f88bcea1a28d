import Mathlib.Data.List.Basic
import PatchReview.Diff.Layout
import PatchReview.Proofs.Text.Numeral

-- The lines that the layout puts around hunks, recognised for what they are: the two names that are
-- compared, the two sides, and the header of a hunk.
namespace PatchReview.Diff

theorem digitValue?_ascii {c : Char} (digit : Text.isAsciiDigit c = true) :
    Text.digitValue? c = some (c.toNat - 48) := by
  have bounds := Text.isAsciiDigit_bounds digit
  have ascii : c.toNat < 128 := by omega
  rw [Text.digitValue?, if_pos ascii, Text.digitFrom, if_pos (by omega)]

def digitsOf (n : Nat) : List Nat := (Text.ofNat n).map fun c => c.toNat - 48

theorem digits?_ofNat (n : Nat) {rest : Text} (ends : ∀ c ∈ rest.head?, Text.isDigit c = false) :
    digits? (Text.ofNat n ++ rest) = some (digitsOf n, rest) := by
  have value {c : Char} (member : c ∈ Text.ofNat n) : Text.digitValue? c = some (c.toNat - 48) :=
    digitValue?_ascii (Text.isAsciiDigit_of_mem_ofNat member)
  have digit (c : Char) (member : c ∈ Text.ofNat n) : Text.isDigit c = true := by
    rw [Text.isDigit, value member]
    rfl
  have values : (Text.ofNat n).filterMap Text.digitValue? = digitsOf n := by
    apply List.filterMap_eq_map_iff_forall_eq_some.mpr
    intro c member
    exact value member
  have run : (Text.ofNat n ++ rest).takeWhile Text.isDigit = Text.ofNat n := by
    rw [List.takeWhile_append_of_pos digit]
    cases rest with
    | nil => simp
    | cons c rest => simp [ends c (by simp)]
  have left : (Text.ofNat n ++ rest).dropWhile Text.isDigit = rest := by
    rw [List.dropWhile_append_of_pos digit]
    cases rest with
    | nil => simp
    | cons c rest => simp [ends c (by simp)]
  unfold digits?
  rw [run, left, values]
  cases digits : digitsOf n with
  | nil => exact absurd (List.map_eq_nil_iff.mp digits) (Text.ofNat_ne_nil n)
  | cons d ds => rfl

def WrittenRange.ofRange (r : Range) : WrittenRange := ⟨digitsOf r.start, digitsOf r.length⟩

theorem ofRange_range (r : Range) : (WrittenRange.ofRange r).range = r := by
  have start : Text.ofDigitValues (digitsOf r.start) = r.start := Text.ofAsciiDigits_ofNat _
  have length : Text.ofDigitValues (digitsOf r.length) = r.length := Text.ofAsciiDigits_ofNat _
  rw [WrittenRange.range, WrittenRange.ofRange, start, length]

-- A range is read up to the space behind it, whether or not it leaves out a length of one.
theorem range?_spelled (brief : Bool) (r : Range) (rest : Text) :
    range? (r.spelled brief ++ ' ' :: rest) = some (.ofRange r, ' ' :: rest) := by
  have space : ∀ c ∈ (' ' :: rest).head?, Text.isDigit c = false := by
    intro c member
    cases member
    rfl
  unfold range? Range.spelled
  split
  · rename_i left
    rw [digits?_ofNat _ space, Option.map_some, WrittenRange.ofRange, left.2]
    rfl
  · have comma : ∀ c ∈ (',' :: (Text.ofNat r.length ++ ' ' :: rest)).head?,
        Text.isDigit c = false := by
      intro c member
      cases member
      rfl
    have text : r.written ++ ' ' :: rest =
        Text.ofNat r.start ++ ',' :: (Text.ofNat r.length ++ ' ' :: rest) := by
      simp [Range.written]
    have length := digits?_ofNat r.length space
    rw [text, digits?_ofNat _ comma, Option.map_some]
    simp only [length, WrittenRange.ofRange]

def Block.hunkHeader (b : Block) : HunkHeader where
  source := .ofRange b.hunk.source
  target := .ofRange b.hunk.target
  heading := b.heading

theorem beforeLineFeed_line {line : Text} (inside : '\n' ∉ line) :
    beforeLineFeed (line ++ "\n") = line := by
  unfold beforeLineFeed
  rw [List.takeWhile_append_of_pos]
  · simp
  · intro c member
    have other : c ≠ '\n' := fun same => inside (same ▸ member)
    simpa using other

theorem ofLine?_header {b : Block} (heading : '\n' ∉ b.heading) :
    HunkHeader.ofLine? (b.header ++ "\n") = some b.hunkHeader := by
  let title : Text := if b.heading.isEmpty then [] else ' ' :: b.heading
  let behind : Text := " @@" ++ (title ++ "\n")
  let second : Text := " +" ++ (b.hunk.target.spelled b.brief ++ behind)
  have text : b.header ++ "\n" = "@@ -" ++ (b.hunk.source.spelled b.brief ++ second) := by
    unfold Block.header
    iterate 5 rw [List.append_assoc]
  have source : range? (b.hunk.source.spelled b.brief ++ second) =
      some (.ofRange b.hunk.source, second) :=
    range?_spelled b.brief b.hunk.source _
  have target : range? (b.hunk.target.spelled b.brief ++ behind) =
      some (.ofRange b.hunk.target, behind) :=
    range?_spelled b.brief b.hunk.target _
  unfold HunkHeader.ofLine?
  rw [text, Text.after?_append]
  simp only [Option.bind_eq_bind, Option.bind_some, source, second, Text.after?_append, target,
    behind]
  refine congrArg (fun heading => some (HunkHeader.mk _ _ heading)) ?_
  cases words : b.heading with
  | nil => simp [title, words, beforeLineFeed]
  | cons c rest =>
    have line := beforeLineFeed_line heading
    rw [words] at line
    simpa [title, words] using line

theorem not_mem_spelled (brief : Bool) (r : Range) : '\n' ∉ r.spelled brief := by
  have digits (n : Nat) : '\n' ∉ Text.ofNat n := by
    intro member
    exact absurd (Text.isAsciiDigit_of_mem_ofNat member) (by decide)
  unfold Range.spelled
  split
  · exact digits _
  · simp [Range.written, digits]

theorem not_mem_header {b : Block} (heading : '\n' ∉ b.heading) : '\n' ∉ b.header := by
  have title : '\n' ∉ (if b.heading.isEmpty then [] else ' ' :: b.heading : Text) := by
    split
    · simp
    · simpa using heading
  unfold Block.header
  simp only [List.mem_append, not_or]
  refine ⟨⟨⟨⟨⟨?_, ?_⟩, ?_⟩, ?_⟩, ?_⟩, title⟩
  · decide
  · exact not_mem_spelled _ _
  · decide
  · exact not_mem_spelled _ _
  · decide

theorem hunkHeader_hunk (b : Block) : b.hunkHeader.hunk = { b.hunk with lines := [] } := by
  rw [HunkHeader.hunk, Block.hunkHeader, ofRange_range, ofRange_range]
  rfl

theorem tooLong?_hunkHeader {b : Block} (short : ∀ n ∈ b.numbers, n < 10 ^ Text.digitLimit) :
    b.hunkHeader.tooLong? = none := by
  have fits {n : Nat} (member : n ∈ b.numbers) : ¬ Text.digitLimit < (digitsOf n).length := by
    rw [digitsOf, List.length_map]
    exact Nat.not_lt.mpr ((Text.length_ofNat_le_iff (by decide)).mpr (short n member))
  unfold HunkHeader.tooLong?
  simp only [List.find?_eq_none, List.mem_map]
  intro length ⟨digits, member, same⟩
  rw [← same, decide_eq_true_eq]
  simp only [Block.hunkHeader, WrittenRange.ofRange, List.mem_cons, List.not_mem_nil,
    or_false] at member
  rcases member with rfl | rfl | rfl | rfl
  all_goals
    apply fits
    simp [Block.numbers]

-- What a split at a space is, one split at a time.
def atSpace? (split : Text × Text) : Option (Text × Text) :=
  match split.2 with
  | ' ' :: rest => some (split.1, rest)
  | _ => none

theorem splits_atSpace (c : Char) (text : Text) :
    (Text.splits (c :: text)).filterMap atSpace? =
      (atSpace? ([], c :: text)).toList ++
        ((Text.splits text).filterMap atSpace?).map fun split => (c :: split.1, split.2) := by
  have longer (split : Text × Text) : atSpace? (c :: split.1, split.2) =
      (atSpace? split).map fun split => (c :: split.1, split.2) := by
    unfold atSpace?
    dsimp only
    split <;> rfl
  have later : ((Text.splits text).map fun split => (c :: split.1, split.2)).filterMap atSpace? =
      ((Text.splits text).filterMap atSpace?).map fun split => (c :: split.1, split.2) := by
    rw [List.filterMap_map, List.map_filterMap]
    congr
    funext split
    exact longer split
  rw [Text.splits, List.filterMap_cons, later]
  cases atSpace? ([], c :: text) <;> rfl

theorem splits_noSpace {text : Text} (clear : ' ' ∉ text) :
    (Text.splits text).filterMap atSpace? = [] := by
  induction text with
  | nil => rfl
  | cons c text ih =>
    simp only [List.mem_cons, not_or] at clear
    have here : atSpace? ([], c :: text) = none := by simp [atSpace?, Ne.symm clear.1]
    rw [splits_atSpace, here, ih clear.2]
    rfl

theorem spaceSplits_once {left right : Text} (clear : ' ' ∉ left) (free : ' ' ∉ right) :
    spaceSplits (left ++ ' ' :: right) = [(left, right)] := by
  have splits : (Text.splits (left ++ ' ' :: right)).filterMap atSpace? = [(left, right)] := by
    induction left with
    | nil =>
      rw [List.nil_append, splits_atSpace, splits_noSpace free]
      rfl
    | cons c left ih =>
      simp only [List.mem_cons, not_or] at clear
      have here : atSpace? ([], c :: (left ++ ' ' :: right)) = none := by
        simp [atSpace?, Ne.symm clear.1]
      rw [List.cons_append, splits_atSpace, here, ih clear.2]
      rfl
  change (Text.splits (left ++ ' ' :: right)).reverse.filterMap atSpace? = [(left, right)]
  rw [List.filterMap_reverse, splits]
  rfl

theorem Change.Named.names {c : Change} (named : c.Named) : IsName c.source ∧ IsName c.target := by
  cases c with
  | modified name | added name | deleted name => exact ⟨named, named⟩
  | renamed source target => exact ⟨named.1, named.2.1⟩

theorem IsName.not_mem {name : Text} (valid : IsName name) {c : Char}
    (blank : Text.isBlank c = true) : c ∉ name := by
  intro member
  rw [valid.2 c member] at blank
  cases blank

theorem IsName.takeWhile {name : Text} (valid : IsName name) (rest : Text) :
    (name ++ rest).takeWhile isNameChar = name ++ rest.takeWhile isNameChar := by
  apply List.takeWhile_append_of_pos
  intro c member
  have tab : c ≠ '\t' := fun same => valid.not_mem (by decide) (same ▸ member)
  have lineFeed : c ≠ '\n' := fun same => valid.not_mem (by decide) (same ▸ member)
  simp [isNameChar, tab, lineFeed]

theorem isPlaced_append {name : Text} (valid : IsName name) (side : Char) (other : side ≠ '"') :
    isPlaced [side, '/'] (side :: '/' :: name) = true := by
  cases name with
  | nil => exact absurd rfl valid.1
  | cons c name => simp [isPlaced, Text.after?, other]

theorem comparedNames?_compared {c : Change} (named : c.Named) :
    comparedNames? c.compared = some ("a/" ++ c.source, "b/" ++ c.target) := by
  obtain ⟨source, target⟩ := named.names
  let rest : Text := "a/" ++ (c.source ++ (" b/" ++ (c.target ++ "\n")))
  have text : c.compared = "diff --git " ++ rest := by
    unfold Change.compared
    rw [List.append_assoc, List.append_assoc, List.append_assoc]
    rfl
  have names : rest.takeWhile isNameChar = ("a/" ++ c.source) ++ ' ' :: ("b/" ++ c.target) := by
    change 'a' :: '/' :: (c.source ++ _).takeWhile isNameChar = _
    rw [source.takeWhile]
    change 'a' :: '/' :: (c.source ++ ' ' :: 'b' :: '/' :: (c.target ++ _).takeWhile isNameChar) = _
    rw [target.takeWhile]
    simp [isNameChar]
  have clear : ' ' ∉ ("a/" ++ c.source : Text) := by
    simpa using source.not_mem (by decide)
  have free : ' ' ∉ ("b/" ++ c.target : Text) := by
    simpa using target.not_mem (by decide)
  have placed : placedNames? rest = some ("a/" ++ c.source, "b/" ++ c.target) := by
    unfold placedNames?
    rw [names, spaceSplits_once clear free]
    have left : isPlaced "a/" ("a/" ++ c.source) = true := isPlaced_append source 'a' (by decide)
    have right : isPlaced "b/" ("b/" ++ c.target) = true := isPlaced_append target 'b' (by decide)
    simp only [List.find?_cons, left, right, Bool.and_self]
  unfold comparedNames?
  rw [text, Text.after?_append, Option.bind_some, placed]
  rfl

theorem nowhere_isName : IsName nowhere := by decide

theorem IsName.placed {name : Text} (valid : IsName name) {side : Char}
    (visible : Text.isBlank side = false) : IsName (side :: '/' :: name) := by
  constructor
  · simp
  · intro c member
    rcases List.mem_cons.mp member with rfl | member
    · exact visible
    rcases List.mem_cons.mp member with rfl | member
    · decide
    · exact valid.2 c member

theorem Change.Named.sides {c : Change} (named : c.Named) :
    IsName c.sourceSide ∧ IsName c.targetSide := by
  obtain ⟨source, target⟩ := named.names
  have left : IsName ("a/" ++ c.source) := source.placed (by decide)
  have right : IsName ("b/" ++ c.target) := target.placed (by decide)
  cases c with
  | modified name => exact ⟨left, right⟩
  | added name => exact ⟨nowhere_isName, right⟩
  | deleted name => exact ⟨left, nowhere_isName⟩
  | renamed source target => exact ⟨left, right⟩

theorem nameAfter?_line {name : Text} (valid : IsName name) (start : Text) :
    nameAfter? start (start ++ name ++ "\n") = some name := by
  unfold nameAfter?
  rw [List.append_assoc, Text.after?_append, Option.map_some, valid.takeWhile]
  simp [isNameChar]

theorem sourceName?_line {c : Change} (named : c.Named) :
    sourceName? ("--- " ++ c.sourceSide ++ "\n") = some c.sourceSide := by
  unfold sourceName?
  exact nameAfter?_line named.sides.1 "--- "

theorem targetName?_line {c : Change} (named : c.Named) :
    targetName? ("+++ " ++ c.targetSide ++ "\n") = some c.targetSide := by
  unfold targetName?
  exact nameAfter?_line named.sides.2 "+++ "

end PatchReview.Diff
