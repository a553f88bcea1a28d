import Mathlib.Data.List.Basic
import PatchReview.Proofs.Prose.Bullets

-- A review read line by line.  Each line alone, told only whether it holds the summary, gives one
-- finding or none, and the passes over the whole text find exactly these.  This is said of every
-- text, and a text has no half pairs of surrogates in it.
namespace PatchReview
namespace Prose

-- The two ways to give an issue and the two to give a suggestion.
inductive Kind
  | bulletedIssue
  | wordedIssue
  | bulletedSuggestion
  | wordedSuggestion
  deriving DecidableEq, Repr

structure Hit where
  kind : Kind
  finding : Finding

def Hit.onlyOf (kind : Kind) (hit : Hit) : Option Finding :=
  if hit.kind = kind then some hit.finding else none

def Hit.ofKind (kind : Kind) (hits : List Hit) : List Finding := hits.filterMap (Hit.onlyOf kind)

-- What a trimmed line gives by its words alone.
def wordHit (line : Text) : Option Hit :=
  if securityWord.foundIn line then some ⟨.wordedIssue, wordedIssue line⟩
  else if performanceWord.foundIn line then some ⟨.wordedSuggestion, wordedSuggestion line⟩
  else none

-- The first case that applies decides what a line gives.
def classify (holdsSummary : Bool) (line : Text) : Option Hit :=
  match issueBullet.first? line with
  | some found => some ⟨.bulletedIssue, bulletedIssue (Text.trim found.text)⟩
  | none =>
    if holdsSummary then none
    else
      match suggestionBullet.first? line with
      | some found => some ⟨.bulletedSuggestion, bulletedSuggestion (Text.trim found.text)⟩
      | none => if (Text.trim line).isEmpty then none else wordHit (Text.trim line)

-- The summary begins at one of the characters of the line that starts at `start`.
def holdsSummary (text : Text) (start : Nat) (line : Text) : Bool :=
  (summary? text).any fun (_, offset) => start ≤ offset ∧ offset < start + line.length

def hits (text : Text) : List Hit :=
  (placed 0 (Text.lines text)).filterMap fun (start, line) =>
    classify (holdsSummary text start line) line

theorem placed_start {offset start : Nat} {line : Text} {lines : List Text}
    (member : (start, line) ∈ placed offset lines) : offset ≤ start := by
  induction lines generalizing offset with
  | nil => cases member
  | cons first rest ih =>
    unfold placed at member
    cases List.mem_cons.mp member with
    | inl same =>
      cases same
      exact Nat.le_refl _
    | inr later =>
      have := ih later
      omega

theorem placed_unique {offset start : Nat} {one two : Text} {lines : List Text}
    (first : (start, one) ∈ placed offset lines) (second : (start, two) ∈ placed offset lines) :
    one = two := by
  induction lines generalizing offset with
  | nil => cases first
  | cons line rest ih =>
    unfold placed at first second
    cases List.mem_cons.mp first with
    | inl same =>
      cases same
      cases List.mem_cons.mp second with
      | inl same =>
        cases same
        rfl
      | inr later =>
        have := placed_start later
        omega
    | inr early =>
      cases List.mem_cons.mp second with
      | inl same =>
        cases same
        have := placed_start early
        omega
      | inr later => exact ih early later

-- A position behind a line feed leads back to no place before the line feed.
theorem lineOf_behind (front edge after : Text) (offset : Nat) :
    offset ≤ lineOf ⟨front.reverse ++ '\n' :: edge, after, offset + front.length⟩ := by
  have short : ((front.reverse ++ '\n' :: edge).takeWhile (· ≠ '\n')).length ≤ front.length := by
    rw [List.takeWhile_append]
    split
    · simp
    · have := (List.takeWhile_prefix (l := front.reverse) (· ≠ '\n')).length_le
      simpa using this
  unfold lineOf
  dsimp only
  omega

-- The start of the line of a character, among the starts of all lines.
theorem lineOf_placed {text front back edge line : Text} {x : Char} {start : Nat}
    (cut : text = front ++ x :: back) (other : x ≠ '\n') (left : LineEdge edge) (offset : Nat)
    (member : (start, line) ∈ placed offset (Text.lines text)) :
    lineOf ⟨front.reverse ++ edge, x :: back, offset + front.length⟩ = start ↔
      start ≤ offset + front.length ∧ offset + front.length < start + line.length := by
  induction text using Text.line_induction generalizing front edge offset with
  | single whole inside =>
    subst cut
    rw [Text.lines_single inside] at member
    obtain ⟨place, rfl⟩ := Prod.mk.inj (List.mem_singleton.mp member)
    have before : '\n' ∉ front := fun feed => inside (by simp [feed])
    rw [lineOf_line before left, place, List.length_append, List.length_cons]
    constructor
    · intro _
      omega
    · intro _
      rfl
  | more first rest inside ih =>
    rw [Text.lines_append inside, placed, List.mem_cons] at member
    cases List.append_eq_append_iff.mp cut with
    | inl behind =>
      obtain ⟨gap, rfl, ahead⟩ := behind
      cases gap with
      | nil => exact absurd (List.cons.inj ahead).1.symm other
      | cons c gap =>
        obtain ⟨rfl, rest⟩ := List.cons.inj ahead
        have place : offset + (first ++ '\n' :: gap).length =
            offset + first.length + 1 + gap.length := by
          simp only [List.length_append, List.length_cons]
          omega
        have before : (first ++ '\n' :: gap).reverse ++ edge =
            gap.reverse ++ '\n' :: (first.reverse ++ edge) := by simp
        rw [place, before]
        cases member with
        | inl same =>
          obtain ⟨rfl, rfl⟩ := Prod.mk.inj same
          have := lineOf_behind gap (line.reverse ++ edge) (x :: back) (start + line.length + 1)
          omega
        | inr later => exact ih rest (lineEdge_cons _) _ later
    | inr ahead =>
      obtain ⟨gap, rfl, behind⟩ := ahead
      have before : '\n' ∉ front := fun feed => inside (by simp [feed])
      rw [lineOf_line before left]
      cases gap with
      | nil => exact absurd (List.cons.inj behind).1 other
      | cons c gap =>
        cases member with
        | inl same =>
          obtain ⟨place, rfl⟩ := Prod.mk.inj same
          rw [place, List.length_append, List.length_cons]
          constructor
          · intro _
            omega
          · intro _
            rfl
        | inr later =>
          have beyond := placed_start later
          rw [List.length_append, List.length_cons] at beyond
          constructor
          · intro same
            omega
          · intro _
            omega

-- What a summary pattern singles out begins with a character that is not a line feed.
theorem summary_place {p : Capture} (words : p.body = firstWords) {text : Text}
    {found : Capture.Found} (matched : p.first? text = some found) :
    ∃ front x back, text = front ++ x :: back ∧ x ≠ '\n' ∧
      found.bodyStart = ⟨front.reverse, x :: back, front.length⟩ := by
  obtain ⟨left, right, rfl, here⟩ := Capture.exists_at_of_firstFrom? matched
  obtain ⟨-, lead, body, -⟩ := Capture.at?_spans here
  obtain ⟨run, passed⟩ := lead.passes
  rw [words] at body
  obtain ⟨middle, ⟨x, visible, initial⟩, -⟩ := body
  obtain ⟨back, after, -⟩ := Pattern.passes_cons.mp initial
  obtain ⟨ahead, behind, further⟩ := passed
  dsimp only at ahead
  refine ⟨left ++ run, x, back, ?_, ?_, ?_⟩
  · rw [ahead, after, List.append_assoc]
  · intro feed
    rw [feed] at visible
    exact absurd visible (by decide)
  · have parts : found.bodyStart =
        ⟨found.bodyStart.before, found.bodyStart.after, found.bodyStart.offset⟩ := rfl
    rw [parts, behind, after, further]
    simp

theorem findSummary_place {text : Text} {found : Capture.Found}
    (matched : findSummary text = some found) :
    ∃ front x back, text = front ++ x :: back ∧ x ≠ '\n' ∧
      found.bodyStart = ⟨front.reverse, x :: back, front.length⟩ := by
  unfold findSummary at matched
  cases colon : summaryColon.first? text with
  | some first =>
    rw [colon] at matched
    cases matched
    exact summary_place rfl colon
  | none =>
    rw [colon] at matched
    exact summary_place rfl matched

section
variable (text : Text)

-- The offsets that the passes leave behind: the summary's line, the lines of bullets, the lines
-- that a suggestion may not take, and those closed to the pass over single words.
def summaryLines : List Nat := ((findSummary text).map fun found => lineOf found.bodyStart).toList

def bulletLines (p : Capture) : List Nat := (p.all text).map fun found => lineOf found.start

def takenLines : List Nat := summaryLines text ++ bulletLines text issueBullet

def keptSuggestions : List Capture.Found :=
  (suggestionBullet.all text).filter fun found => !(takenLines text).contains (lineOf found.start)

def closedLines : List Nat :=
  takenLines text ++ (keptSuggestions text).map fun found => lineOf found.start

end

section
variable {text line : Text} {start : Nat}

theorem mem_summaryLines (member : (start, line) ∈ placed 0 (Text.lines text)) :
    start ∈ summaryLines text ↔ holdsSummary text start line = true := by
  unfold summaryLines holdsSummary summary?
  cases matched : findSummary text with
  | none => simp
  | some found =>
    obtain ⟨front, x, back, cut, other, place⟩ := findSummary_place matched
    have same := lineOf_placed cut other lineEdge_nil 0 member
    rw [List.append_nil, Nat.zero_add] at same
    simp only [Option.map_some, Option.toList_some, List.mem_singleton, Option.any_some,
      decide_eq_true_eq, place]
    rw [eq_comm]
    exact same

-- The matches of a bullet pattern with their places, read off the lines.
theorem all_places {p : Capture} (takes : p.TakesLines) (text : Text) :
    (p.all text).map placeAndText =
      (placed 0 (Text.lines text)).filterMap fun (start, line) =>
        (p.first? line).map fun found => (start, found.text) :=
  allFrom_lines takes text [] lineEdge_nil 0

theorem mem_bulletLines {p : Capture} (takes : p.TakesLines)
    (member : (start, line) ∈ placed 0 (Text.lines text)) :
    start ∈ bulletLines text p ↔ (p.first? line).isSome = true := by
  have places : bulletLines text p = ((p.all text).map placeAndText).map (·.1) := by
    rw [List.map_map]
    rfl
  rw [places, all_places takes, List.mem_map]
  constructor
  · intro ⟨⟨_, _⟩, found, same⟩
    cases same
    obtain ⟨⟨_, other⟩, there, matched⟩ := List.mem_filterMap.mp found
    cases matches' : p.first? other with
    | none => simp [matches'] at matched
    | some _ =>
      simp only [matches', Option.map_some, Option.some.injEq, Prod.mk.injEq] at matched
      rw [matched.1] at there
      rw [placed_unique member there, matches']
      rfl
  · intro matched
    obtain ⟨found, matched⟩ := Option.isSome_iff_exists.mp matched
    refine ⟨(start, found.text), List.mem_filterMap.mpr ⟨_, member, ?_⟩, rfl⟩
    simp [matched]

theorem mem_takenLines (member : (start, line) ∈ placed 0 (Text.lines text)) :
    start ∈ takenLines text ↔
      holdsSummary text start line = true ∨ (issueBullet.first? line).isSome = true := by
  rw [takenLines, List.mem_append, mem_summaryLines member,
    mem_bulletLines issueBullet_takesLines member]

theorem mem_closedLines (member : (start, line) ∈ placed 0 (Text.lines text)) :
    start ∈ closedLines text ↔
      start ∈ takenLines text ∨ (suggestionBullet.first? line).isSome = true := by
  have kept : start ∈ (keptSuggestions text).map (fun found => lineOf found.start) ↔
      start ∉ takenLines text ∧ start ∈ bulletLines text suggestionBullet := by
    simp only [keptSuggestions, bulletLines, List.mem_map, List.mem_filter, Bool.not_eq_true',
      List.contains_eq_mem, decide_eq_false_iff_not]
    constructor
    · intro ⟨found, ⟨there, free⟩, same⟩
      exact ⟨same ▸ free, found, there, same⟩
    · intro ⟨free, found, there, same⟩
      exact ⟨found, ⟨there, same ▸ free⟩, same⟩
  rw [closedLines, List.mem_append, kept, mem_bulletLines suggestionBullet_takesLines member]
  by_cases taken : start ∈ takenLines text <;> simp [taken]

end

theorem wordHit_onlyOf {kind : Kind} (issue : kind ≠ .wordedIssue)
    (suggestion : kind ≠ .wordedSuggestion) (line : Text) :
    (wordHit line).bind (Hit.onlyOf kind) = none := by
  unfold wordHit Hit.onlyOf
  split
  · simp [Ne.symm issue]
  · split
    · simp [Ne.symm suggestion]
    · rfl

-- What a line gives of each kind.
section
variable (summary : Bool) (line : Text)

theorem classify_bulletedIssue :
    (classify summary line).bind (Hit.onlyOf .bulletedIssue) =
      (issueBullet.first? line).map fun found => bulletedIssue (Text.trim found.text) := by
  unfold classify
  cases issueBullet.first? line with
  | some found => rfl
  | none =>
    cases summary with
    | true => rfl
    | false =>
      cases suggestionBullet.first? line with
      | some found => rfl
      | none =>
        cases (Text.trim line).isEmpty with
        | true => rfl
        | false => exact wordHit_onlyOf (by decide) (by decide) _

theorem classify_bulletedSuggestion :
    (classify summary line).bind (Hit.onlyOf .bulletedSuggestion) =
      if summary = true ∨ (issueBullet.first? line).isSome = true then none
      else (suggestionBullet.first? line).map fun found =>
        bulletedSuggestion (Text.trim found.text) := by
  unfold classify
  cases issueBullet.first? line with
  | some found => simp [Hit.onlyOf]
  | none =>
    cases summary with
    | true => rfl
    | false =>
      cases suggestionBullet.first? line with
      | some found => simp [Hit.onlyOf]
      | none =>
        cases (Text.trim line).isEmpty with
        | true => rfl
        | false => exact wordHit_onlyOf (by decide) (by decide) _

theorem classify_worded {kind : Kind} (issue : kind ≠ .bulletedIssue)
    (suggestion : kind ≠ .bulletedSuggestion) :
    (classify summary line).bind (Hit.onlyOf kind) =
      if (summary = true ∨ (issueBullet.first? line).isSome = true) ∨
          (suggestionBullet.first? line).isSome = true then none
      else if (Text.trim line).isEmpty then none
      else (wordHit (Text.trim line)).bind (Hit.onlyOf kind) := by
  unfold classify
  cases issueBullet.first? line with
  | some found => simp [Hit.onlyOf, Ne.symm issue]
  | none =>
    cases summary with
    | true => rfl
    | false =>
      cases suggestionBullet.first? line with
      | some found => simp [Hit.onlyOf, Ne.symm suggestion]
      | none => cases (Text.trim line).isEmpty <;> rfl

end

theorem ofKind_hits (kind : Kind) (text : Text) :
    Hit.ofKind kind (hits text) =
      (placed 0 (Text.lines text)).filterMap fun (start, line) =>
        (classify (holdsSummary text start line) line).bind (Hit.onlyOf kind) := by
  rw [Hit.ofKind, hits, List.filterMap_filterMap]

theorem bulletedIssues_hits (text : Text) :
    (issueBullet.all text).map (fun found => bulletedIssue (Text.trim found.text)) =
      Hit.ofKind .bulletedIssue (hits text) := by
  have places : (issueBullet.all text).map (fun found => bulletedIssue (Text.trim found.text)) =
      ((issueBullet.all text).map placeAndText).map fun place =>
        bulletedIssue (Text.trim place.2) := by
    rw [List.map_map]
    rfl
  rw [places, all_places issueBullet_takesLines, List.map_filterMap, ofKind_hits]
  apply List.filterMap_congr
  intro ⟨start, line⟩ _
  dsimp only
  rw [classify_bulletedIssue, Option.map_map]
  rfl

theorem bulletedSuggestions_hits (text : Text) :
    (keptSuggestions text).map (fun found => bulletedSuggestion (Text.trim found.text)) =
      Hit.ofKind .bulletedSuggestion (hits text) := by
  have places :
      (keptSuggestions text).map (fun found => bulletedSuggestion (Text.trim found.text)) =
        (((suggestionBullet.all text).map placeAndText).filter fun place =>
          !(takenLines text).contains place.1).map fun place =>
            bulletedSuggestion (Text.trim place.2) := by
    rw [List.filter_map, List.map_map]
    rfl
  rw [places, all_places suggestionBullet_takesLines, List.filter_filterMap, List.map_filterMap,
    ofKind_hits]
  apply List.filterMap_congr
  intro ⟨start, line⟩ member
  dsimp only
  rw [classify_bulletedSuggestion]
  by_cases taken : start ∈ takenLines text
  · rw [if_pos ((mem_takenLines member).mp taken)]
    cases suggestionBullet.first? line <;> simp [taken]
  · rw [if_neg fun closed => taken ((mem_takenLines member).mpr closed)]
    cases suggestionBullet.first? line <;> simp [taken]

theorem worded_hits {kind : Kind} (issue : kind ≠ .bulletedIssue)
    (suggestion : kind ≠ .bulletedSuggestion) (text : Text) :
    (openLines (closedLines text) text).filterMap
        (fun line => (wordHit line).bind (Hit.onlyOf kind)) =
      Hit.ofKind kind (hits text) := by
  rw [openLines, List.filterMap_filterMap, ofKind_hits]
  apply List.filterMap_congr
  intro ⟨start, line⟩ member
  dsimp only
  rw [classify_worded _ _ issue suggestion]
  have closed := mem_closedLines member
  rw [mem_takenLines member] at closed
  by_cases shut : start ∈ closedLines text
  · rw [if_pos (closed.mp shut)]
    simp [shut]
  · rw [if_neg fun taken => shut (closed.mpr taken)]
    cases (Text.trim line).isEmpty <;> simp [shut]

-- A pass that keeps the lines with certain words, against what each line gives by its words.
theorem filter_words {kind : Kind} {p : Text → Bool} {f : Text → Finding}
    (each : ∀ line, (wordHit line).bind (Hit.onlyOf kind) = if p line then some (f line) else none)
    (lines : List Text) :
    (lines.filter p).map f = lines.filterMap fun line => (wordHit line).bind (Hit.onlyOf kind) := by
  induction lines with
  | nil => rfl
  | cons line rest ih =>
    rw [List.filter_cons, List.filterMap_cons, each, ← ih]
    cases p line <;> rfl

theorem wordHit_issue (line : Text) :
    (wordHit line).bind (Hit.onlyOf .wordedIssue) =
      if securityWord.foundIn line then some (wordedIssue line) else none := by
  unfold wordHit
  cases securityWord.foundIn line with
  | true => rfl
  | false => cases performanceWord.foundIn line <;> rfl

theorem wordHit_suggestion (line : Text) :
    (wordHit line).bind (Hit.onlyOf .wordedSuggestion) =
      if !securityWord.foundIn line && performanceWord.foundIn line then
        some (wordedSuggestion line)
      else none := by
  unfold wordHit
  cases securityWord.foundIn line with
  | true => rfl
  | false => cases performanceWord.foundIn line <;> rfl

-- Every hit is of one kind.
theorem ofKind_perm (hits : List Hit) :
    ((Hit.ofKind .bulletedIssue hits ++ Hit.ofKind .wordedIssue hits) ++
      (Hit.ofKind .bulletedSuggestion hits ++ Hit.ofKind .wordedSuggestion hits)).Perm
        (hits.map (·.finding)) := by
  rw [List.perm_iff_count]
  intro finding
  induction hits with
  | nil => rfl
  | cons hit rest ih =>
    simp only [Hit.ofKind, List.count_append] at ih ⊢
    obtain ⟨kind, own⟩ := hit
    cases kind <;> simp [Hit.onlyOf, List.count_cons] <;> omega

-- The passes give each line's finding, bullets before words and each in the order of the lines,
-- and nothing else.
theorem parse_hits (filename text : Text) :
    (parse filename text).issues =
        Hit.ofKind .bulletedIssue (hits text) ++ Hit.ofKind .wordedIssue (hits text) ∧
      (parse filename text).suggestions =
        Hit.ofKind .bulletedSuggestion (hits text) ++ Hit.ofKind .wordedSuggestion (hits text) ∧
      ((parse filename text).issues ++ (parse filename text).suggestions).Perm
        ((hits text).map (·.finding)) := by
  have issues : (parse filename text).issues =
      Hit.ofKind .bulletedIssue (hits text) ++ Hit.ofKind .wordedIssue (hits text) := by
    rw [← bulletedIssues_hits, ← worded_hits (by decide) (by decide), ← filter_words wordHit_issue]
    rfl
  have suggestions : (parse filename text).suggestions =
      Hit.ofKind .bulletedSuggestion (hits text) ++ Hit.ofKind .wordedSuggestion (hits text) := by
    rw [← bulletedSuggestions_hits, ← worded_hits (by decide) (by decide),
      ← filter_words wordHit_suggestion]
    rfl
  refine ⟨issues, suggestions, ?_⟩
  rw [issues, suggestions]
  exact ofKind_perm (hits text)

end Prose
end PatchReview
