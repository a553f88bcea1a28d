import Mathlib.Data.List.Flatten
import Mathlib.Data.List.NodupEquivFin
import PatchReview.Proofs.Scan.Soundness

-- Scanning in parts.  The findings of two lists of lines, one behind the other, are those of each
-- and what the rule on two lines finds where they meet.  Lines that come in later move the issues
-- of a patch down and take none away.
namespace PatchReview

namespace Finding

-- The same finding, its line counted differently.
def renumbered (place : Int → Int) (finding : Finding) : Finding :=
  { finding with line := finding.line.map place }

-- The same finding so many lines further down.
def lowered (count : Nat) : Finding → Finding := renumbered (· + count)

end Finding

-- Lines, which count from one, stay in order.
def Rising (place : Int → Int) : Prop := ∀ one two, 1 ≤ one → one < two → place one < place two

theorem RuleInfo.finding_renumbered {place : Int → Int} {number other : Nat}
    (moved : place number = other) (info : RuleInfo) (line : Text) :
    (info.finding number line).renumbered place = info.finding other line := by
  unfold Finding.renumbered RuleInfo.finding
  simp [moved]

namespace Scan

open RuleTable

-- What the rules on two lines find at a line, told the one after it.
def ahead (number : Nat) (line : Text) (following : Option Text) : List Finding :=
  (lookaheadRules.filter (·.fires line following)).map fun rule => rule.finding number line

-- What they find at the last line of one list, whose number is given, once another follows.
def seam (number : Nat) (first second : List Text) : List Finding :=
  match first.getLast?, second.head? with
  | some last, some next =>
    if emptyCatch.fires last (some next) then [emptyCatch.finding number last] else []
  | _, _ => []

theorem ahead_none (number : Nat) (line : Text) : ahead number line none = [] := by
  unfold ahead
  simp [LookaheadRule.fires]

theorem atLine_split (number : Nat) (line : Text) (following : Option Text) :
    atLine number line following = atLine number line none ++ ahead number line following := by
  have alone : atLine number line none =
      (lineRules.filter (·.fires line)).map (fun rule => rule.finding number line) ++
        ahead number line none := rfl
  rw [alone, ahead_none, List.append_nil]
  rfl

theorem seam_single (number : Nat) (line : Text) (second : List Text) :
    seam number [line] second = ahead number line second.head? := by
  cases second with
  | nil => exact (ahead_none number line).symm
  | cons next rest =>
    unfold ahead seam
    by_cases fires : emptyCatch.fires line (some next) = true
    · simp [lookaheadRules, fires]
    · simp [lookaheadRules, fires]

theorem seam_cons (number : Nat) (line next : Text) (rest second : List Text) :
    seam number (line :: next :: rest) second = seam number (next :: rest) second := by
  unfold seam
  rw [List.getLast?_cons_cons]

theorem fromLine_cons (number : Nat) (line : Text) (rest : List Text) :
    fromLine number (line :: rest) = atLine number line rest.head? ++ fromLine (number + 1) rest :=
  rfl

-- `start` lines stand above both lists.
theorem fromLine_append (start : Nat) (first second : List Text) :
    fromLine (start + 1) (first ++ second) =
      fromLine (start + 1) first ++ seam (start + first.length) first second ++
        fromLine (start + first.length + 1) second := by
  induction first generalizing start with
  | nil => rfl
  | cons line rest ih =>
    cases rest with
    | nil =>
      -- The last line above the seam learns what stands below it.
      have told := atLine_split (start + 1) line second.head?
      rw [seam_single, List.singleton_append, fromLine_cons, told, fromLine_cons]
      simp [fromLine]
    | cons next more =>
      have later := ih (start + 1)
      have down : start + 1 + (next :: more).length = start + (line :: next :: more).length := by
        simp only [List.length_cons]
        omega
      rw [down] at later
      have upper := fromLine_cons (start + 1) line (next :: more)
      rw [seam_cons, List.cons_append, fromLine_cons, later, upper]
      simp only [List.cons_append, List.head?_cons, List.append_assoc]

theorem atLine_renumbered {place : Int → Int} {number other : Nat} (moved : place number = other)
    (line : Text) (following : Option Text) :
    (atLine number line following).map (.renumbered place) = atLine other line following := by
  unfold atLine
  simp [Function.comp_def, RuleInfo.finding_renumbered moved]

theorem fromLine_lowered (count start : Nat) (lines : List Text) :
    (fromLine start lines).map (.lowered count) = fromLine (start + count) lines := by
  induction lines generalizing start with
  | nil => rfl
  | cons line rest ih =>
    have here : (atLine start line rest.head?).map (.lowered count) =
        atLine (start + count) line rest.head? := by
      apply atLine_renumbered
      exact (Int.natCast_add start count).symm
    have below : start + 1 + count = start + count + 1 := by omega
    rw [fromLine, List.map_append, here, ih, below]
    rfl

theorem lineFindings_append (first second : List Text) :
    lineFindings (first ++ second) =
      lineFindings first ++ seam first.length first second ++
        (lineFindings second).map (.lowered first.length) := by
  have below : (lineFindings second).map (.lowered first.length) =
      fromLine (first.length + 1) second := by
    rw [Nat.add_comm]
    exact fromLine_lowered first.length 1 second
  have parts := fromLine_append 0 first second
  simp only [Nat.zero_add] at parts
  rw [below]
  exact parts

-- What a handler does stands on the line below it, so the finding is the seam's.
example : (lineFindings ["try:", "except E:", "+  pass"]).map (·.line) = [some 2] ∧
    lineFindings ["try:", "except E:"] = [] ∧ lineFindings ["+  pass"] = [] := by
  decide +kernel

theorem secureFrom_lowered (count start : Nat) (lines : List Text) :
    (secureFrom start lines).map (.lowered count) = secureFrom (start + count) lines := by
  rw [← issues_fromLine, ← issues_fromLine, ← fromLine_lowered, List.filter_map]
  rfl

theorem issues_append (file : ChangedFile) (first second : Text) :
    (reviewByRules { file with patch := first ++ '\n' :: second }).issues =
      (reviewByRules { file with patch := first }).issues ++
        (reviewByRules { file with patch := second }).issues.map
          (.lowered (Text.lines first).length) := by
  rw [issues_reviewByRules, issues_reviewByRules, issues_reviewByRules]
  dsimp only
  rw [Text.lines_lineFeed, secureFrom_append, secureFrom_lowered]

theorem secureAt_renumbered {place : Int → Int} {number other : Nat} (moved : place number = other)
    (line : Text) : (secureAt number line).map (.renumbered place) = secureAt other line := by
  unfold secureAt
  simp [Function.comp_def, RuleInfo.finding_renumbered moved]

-- The new number of a line, told where each line goes, counted from nothing.
def placeBy (spot : Nat → Nat) (number : Int) : Int := 1 + spot (number - 1).toNat

theorem placeBy_rising (spot : Nat ↪o Nat) : Rising (placeBy spot) := by
  intro one two lower above
  have spots : spot (one - 1).toNat < spot (two - 1).toNat := by
    apply spot.strictMono
    omega
  unfold placeBy
  omega

theorem placeBy_number (spot : Nat → Nat) {number : Nat} (counted : 1 ≤ number) :
    placeBy spot number = (1 + spot (number - 1) : Nat) := by
  have down : ((number : Int) - 1).toNat = number - 1 := by omega
  unfold placeBy
  rw [down]
  omega

-- The lines that stay are among the others under their new numbers.
theorem zipIdx_sublist {lines grown : List Text} {spot : Nat ↪o Nat}
    (same : ∀ i, lines[i]? = grown[spot i]?) :
    ((lines.zipIdx 1).map fun row => (row.1, 1 + spot (row.2 - 1))).Sublist (grown.zipIdx 1) := by
  apply List.sublist_iff_exists_orderEmbedding_getElem?_eq.mpr
  refine ⟨spot, ?_⟩
  intro i
  simp [same, Function.comp_def]

theorem secureFrom_renumbered (spot : Nat → Nat) (lines : List Text) :
    (secureFrom 1 lines).map (.renumbered (placeBy spot)) =
      ((lines.zipIdx 1).map fun row => (row.1, 1 + spot (row.2 - 1))).flatMap
        fun row => secureAt row.2 row.1 := by
  unfold secureFrom
  rw [List.flatMap_map, List.map_flatMap]
  apply List.flatMap_congr
  intro row member
  apply secureAt_renumbered
  exact placeBy_number spot (List.le_snd_of_mem_zipIdx member)

-- Where lines stay in order, what is found at them stays, at the new place of its line.
theorem secureFrom_sublist {lines grown : List Text} (kept : lines.Sublist grown) :
    ∃ place : Int → Int, Rising place ∧
      ((secureFrom 1 lines).map (.renumbered place)).Sublist (secureFrom 1 grown) := by
  obtain ⟨spot, same⟩ := List.sublist_iff_exists_orderEmbedding_getElem?_eq.mp kept
  refine ⟨placeBy spot, placeBy_rising spot, ?_⟩
  rw [secureFrom_renumbered]
  exact (zipIdx_sublist same).flatMap fun row => secureAt row.2 row.1

theorem lineFindings_single (line : Text) :
    lineFindings [line] =
      (lineRules.filter (·.fires line)).map fun rule => rule.finding 1 line := by
  have alone : lineFindings [line] =
      ((lineRules.filter (·.fires line)).map (fun rule => rule.finding 1 line) ++
        ahead 1 line none) ++ [] := rfl
  rw [alone, ahead_none, List.append_nil, List.append_nil]

theorem fired_single (line : Text) :
    (lineFindings [line]).map (fun finding => (finding.rule, finding.severity)) =
      (firing line).map fun fired => (some fired.1, fired.2) := by
  rw [lineFindings_single, firing, List.map_map, List.map_map]
  rfl

theorem line_single {line : Text} {finding : Finding} (member : finding ∈ lineFindings [line]) :
    finding.line = some 1 := by
  rw [lineFindings_single] at member
  obtain ⟨rule, -, rfl⟩ := List.mem_map.mp member
  rfl

theorem attention_iff (file : ChangedFile) :
    (reviewByRules file).rating = .needsAttention ↔ (reviewByRules file).issues ≠ [] :=
  (sound_reviewByRules file).attention

-- Lists of lines are scanned part by part, with one look across the seam, and one line alone has
-- what fires on it.  Two texts joined by a line feed have the issues of the first and then those of
-- the second; and lines put into a patch, wherever they go, leave its issues there and in order,
-- and a file that needs attention needs it still.
theorem scan_composes :
    (∀ first second : List Text,
      lineFindings (first ++ second) =
        lineFindings first ++ seam first.length first second ++
          (lineFindings second).map (.lowered first.length)) ∧
    (∀ line : Text,
      (lineFindings [line]).map (fun finding => (finding.rule, finding.severity)) =
        (firing line).map (fun fired => (some fired.1, fired.2)) ∧
      ∀ finding ∈ lineFindings [line], finding.line = some 1) ∧
    (∀ (file : ChangedFile) (first second : Text),
      (reviewByRules { file with patch := first ++ '\n' :: second }).issues =
        (reviewByRules { file with patch := first }).issues ++
          (reviewByRules { file with patch := second }).issues.map
            (.lowered (Text.lines first).length)) ∧
    ∀ (file : ChangedFile) (first second : Text),
      (Text.lines first).Sublist (Text.lines second) →
      (∃ place : Int → Int, Rising place ∧
        ((reviewByRules { file with patch := first }).issues.map (.renumbered place)).Sublist
          (reviewByRules { file with patch := second }).issues) ∧
      ((reviewByRules { file with patch := first }).rating = .needsAttention →
        (reviewByRules { file with patch := second }).rating = .needsAttention) := by
  refine ⟨lineFindings_append, ?_, issues_append, ?_⟩
  · intro line
    exact ⟨fired_single line, fun finding member => line_single member⟩
  · intro file first second kept
    obtain ⟨place, rising, found⟩ := secureFrom_sublist kept
    rw [attention_iff, attention_iff, issues_reviewByRules, issues_reviewByRules]
    refine ⟨⟨place, rising, found⟩, ?_⟩
    intro given empty
    dsimp only at given empty
    rw [empty, List.sublist_nil, List.map_eq_nil_iff] at found
    exact given found

-- A line above, one between and an empty one below.
theorem scan_composes_grown :
    (Text.lines "md5\neval(x)").Sublist (Text.lines "a = 1\nmd5\nsha1\neval(x)\n") ∧
    (∃ place : Int → Int, Rising place ∧
      ((reviewByRules { filename := "a.py", patch := "md5\neval(x)" }).issues.map
        (.renumbered place)).Sublist
          (reviewByRules { filename := "a.py", patch := "a = 1\nmd5\nsha1\neval(x)\n" }).issues) ∧
    (reviewByRules { filename := "a.py", patch := "md5\neval(x)" }).rating = .needsAttention ∧
    (reviewByRules { filename := "a.py", patch := "a = 1\nmd5\nsha1\neval(x)\n" }).rating =
      .needsAttention := by
  have kept : (Text.lines "md5\neval(x)").Sublist
      (Text.lines "a = 1\nmd5\nsha1\neval(x)\n") := by decide
  have before : (reviewByRules { filename := "a.py", patch := "md5\neval(x)" }).rating =
      .needsAttention := by decide +kernel
  obtain ⟨found, stays⟩ := scan_composes.2.2.2 { filename := "a.py" } _ _ kept
  exact ⟨kept, found, before, stays before⟩

end Scan
end PatchReview
