import Mathlib.Data.List.Forall2
import PatchReview.Proofs.Report.Markup
import PatchReview.Proofs.Scan.Soundness
import PatchReview.Report.Render

-- Color only decorates.  Once the sequences that set a style are deleted, a report in color is the
-- report without, as long as no text of the review brings an escape character of its own.
namespace PatchReview

def escape : Char := '\x1b'

namespace Style

-- The escape character, a bracket, digits and an `m`.
def styleSequence : Capture where
  lead := .seqs [.exactly [escape, '['], .some (.range '0' '9'), .exactly ['m']]
  body := .nothing
  tail := .nothing

def uncolored (text : Text) : Text := styleSequence.keepBodies text

-- What the terminal library does to a text: sequences go before it and a reset after it.
def Wraps (styled : Style → Text → Text) : Prop :=
  ∀ style text, ∃ codes : List Nat, styled style text = codes.flatMap sequence ++ text ++ sequence 0

theorem sequence_eq (code : Nat) :
    sequence code = [escape, '['] ++ (Text.ofNat code ++ ['m']) := rfl

theorem taken?_plain {c : Char} (other : c ≠ escape) (before rest : Text) (offset : Nat) :
    styleSequence.taken? ⟨before, c :: rest, offset⟩ = none := by
  cases taken : styleSequence.taken? ⟨before, c :: rest, offset⟩ with
  | none => rfl
  | some found =>
    obtain ⟨-, lead, -⟩ := Capture.at?_spans (Option.filter_eq_some_iff.mp taken).1
    obtain ⟨middle, opened, -⟩ := lead
    have ahead : c :: rest = [escape, '['] ++ middle.after := (Pattern.spans_exactly.mp opened).1
    cases ahead
    exact absurd rfl other

-- The digits end at the `m`, so a sequence is matched as a whole.
theorem lead_tryAt {α : Type} (code : Nat) (before rest : Text) (offset : Nat)
    {next : Cursor → Option α}
    (accepted : (next ⟨(sequence code).reverse ++ before, rest,
      offset + (sequence code).length⟩).isSome = true) :
    styleSequence.lead.tryAt ⟨before, sequence code ++ rest, offset⟩ next =
      next ⟨(sequence code).reverse ++ before, rest, offset + (sequence code).length⟩ := by
  let figures : CharSet := .range '0' '9'
  have inside : ∀ c ∈ Text.ofNat code, figures.contains c = true :=
    fun c member => Text.isAsciiDigit_of_mem_ofNat member
  have ends : ∀ c ∈ ('m' :: rest).head?, figures.contains c = false := by
    intro c first
    cases first
    rfl
  have filled : 1 ≤ (Text.ofNat code).length := List.length_pos_of_ne_nil (Text.ofNat_ne_nil code)
  let opened : Text := '[' :: escape :: before
  let numbered : Text := (Text.ofNat code).reverse ++ opened
  let place : Nat := offset + 2 + (Text.ofNat code).length
  have stop : (⟨(sequence code).reverse ++ before, rest, offset + (sequence code).length⟩ :
      Cursor) = ⟨'m' :: numbered, rest, place + 1⟩ := by
    simp [sequence_eq, numbered, opened, place]
    omega
  have shape : sequence code ++ rest = [escape, '['] ++ (Text.ofNat code ++ 'm' :: rest) := by
    simp [sequence_eq]
  let closing (middle : Cursor) := (Pattern.exactly ['m']).tryAt middle next
  let reading (middle : Cursor) := (Pattern.some figures).tryAt middle closing
  have closed : closing ⟨numbered, 'm' :: rest, place⟩ = next ⟨'m' :: numbered, rest, place + 1⟩ :=
    Pattern.tryAt_exactly ['m'] numbered rest place next
  rw [stop, ← closed] at accepted ⊢
  calc styleSequence.lead.tryAt ⟨before, sequence code ++ rest, offset⟩ next
    _ = reading ⟨opened, Text.ofNat code ++ 'm' :: rest, offset + 2⟩ := by
      rw [shape]
      exact Pattern.tryAt_exactly [escape, '['] before _ offset reading
    _ = closing ⟨numbered, 'm' :: rest, place⟩ :=
      Pattern.tryRun_longest inside ends filled opened (offset + 2) accepted

-- Nothing of a sequence stays.
theorem sequence_taken (code : Nat) (before rest : Text) (offset : Nat) :
    ∃ found, styleSequence.taken? ⟨before, sequence code ++ rest, offset⟩ = some found ∧
      found.text = [] ∧ found.width = (sequence code).length := by
  let start : Cursor := ⟨before, sequence code ++ rest, offset⟩
  let stop : Cursor := ⟨(sequence code).reverse ++ before, rest, offset + (sequence code).length⟩
  have matched : styleSequence.at? start = some ⟨start, stop, stop, stop⟩ :=
    lead_tryAt code before rest offset rfl
  have width : Capture.Found.width ⟨start, stop, stop, stop⟩ = (sequence code).length :=
    Nat.add_sub_cancel_left ..
  have wide : 0 < (sequence code).length := Nat.succ_pos _
  rw [← width] at wide
  refine ⟨_, Option.filter_eq_some_iff.mpr ⟨matched, decide_eq_true wide⟩, ?_, width⟩
  exact (Pattern.passes_nil.mpr rfl : stop.Passes [] stop).upTo

-- Deleting the sequences turns the one text into the other, whatever stands before and after it.
structure Decorates (shown plain : Text) : Prop where
  bare : ∀ before offset rest, styleSequence.keepFrom 0 before offset (shown ++ rest) =
    plain ++ styleSequence.keepFrom 0 (shown.reverse ++ before) (offset + shown.length) rest
  clear : escape ∉ plain

namespace Decorates

variable {one two plain other : Text}

theorem uncolored (decorates : Decorates one plain) : uncolored one = plain := by
  have bare := decorates.bare [] 0 []
  rw [List.append_nil] at bare
  unfold Style.uncolored Capture.keepBodies
  rw [bare, Capture.keepFrom, List.append_nil]

theorem append (front : Decorates one plain) (back : Decorates two other) :
    Decorates (one ++ two) (plain ++ other) where
  bare before offset rest := by
    rw [List.append_assoc, front.bare, back.bare, List.append_assoc, List.reverse_append,
      List.append_assoc, List.length_append, Nat.add_assoc]
  clear := List.not_mem_append front.clear back.clear

theorem self (clear : escape ∉ plain) : Decorates plain plain where
  bare before offset rest := by
    induction plain generalizing before offset with
    | nil => rfl
    | cons c plain ih =>
      rw [List.mem_cons, not_or] at clear
      rw [List.cons_append, Capture.keepFrom_passed (taken?_plain (Ne.symm clear.1) ..),
        ih clear.2]
      simp [Nat.add_assoc, Nat.add_comm 1]
  clear := clear

theorem lineFeed : Decorates ['\n'] ['\n'] := .self (by decide)

theorem sequence (code : Nat) : Decorates (sequence code) [] where
  bare before offset rest := by
    obtain ⟨found, taken, text, width⟩ := sequence_taken code before rest offset
    rw [Capture.keepFrom_taken taken width, text]
  clear := List.not_mem_nil

theorem sequences (codes : List Nat) : Decorates (codes.flatMap Style.sequence) [] := by
  induction codes with
  | nil => exact .self List.not_mem_nil
  | cons code codes ih => exact (sequence code).append ih

theorem paint {styled : Style → Text → Text} (wraps : Wraps styled) (style : Option Style)
    {text : Text} (clear : escape ∉ text) :
    Decorates (paintWith styled true style text) (paintWith styled false style text) := by
  cases style with
  | none => exact .self clear
  | some s =>
    obtain ⟨codes, shown⟩ := wraps s text
    have wrapped := ((sequences codes).append (self clear)).append (sequence 0)
    rw [List.nil_append, List.append_nil, ← shown] at wrapped
    exact wrapped

theorem unlines {shown plain : List Text} (rows : List.Forall₂ Decorates shown plain) :
    Decorates (Text.unlines shown) (Text.unlines plain) := by
  induction rows with
  | nil => exact .self List.not_mem_nil
  | cons first rest ih =>
    cases rest with
    | nil =>
      simpa [Text.unlines, Text.joinWith, List.intercalate] using first
    | cons second later =>
      unfold Text.unlines at ih ⊢
      rw [Text.joinWith_cons, Text.joinWith_cons]
      exact first.append (lineFeed.append ih)

theorem rows {α : Type} {shown plain : α → Text} {items : List α}
    (each : ∀ item ∈ items, Decorates (shown item) (plain item)) :
    List.Forall₂ Decorates (items.map shown) (items.map plain) := by
  rw [List.forall₂_map_left_iff, List.forall₂_map_right_iff, List.forall₂_same]
  exact each

end Decorates

end Style

-- No text of the review that a report shows has the character.
structure ReviewSet.Lacks (c : Char) (review : ReviewSet) : Prop where
  summary : c ∉ review.summary
  files : ∀ file ∈ review.files, c ∉ file.filename ∧ c ∉ file.analysis.summary ∧
    ∀ finding ∈ file.analysis.findings, c ∉ finding.description

namespace PlainReport

open Style

-- Taking markup out brings no character in.
theorem escape_strip {text : Text} (clear : escape ∉ text) : escape ∉ Markup.strip text :=
  fun member => clear ((Markup.strip_sublist text).subset member)

theorem summaryLines_decorates {summary : Text} (clear : escape ∉ summary) :
    List.Forall₂ Decorates (summaryLines summary) (summaryLines summary) := by
  unfold summaryLines
  split
  · exact .nil
  · exact .cons (.self (Text.not_mem_labelled rfl (by decide) (escape_strip clear))) .nil

theorem total_decorates {label : String} {characters : List Char}
    (spelled : label = String.ofList characters) (clear : escape ∉ characters) (n : Int) :
    Decorates (label.toList ++ Text.ofInt n) (label.toList ++ Text.ofInt n) :=
  .self (Text.not_mem_labelled spelled clear (Text.not_mem_ofInt rfl (by decide) n))

section
variable {styled : Style → Text → Text} (wraps : Wraps styled) {review : ReviewSet}
include wraps

theorem title_decorates (style : Option Style) {title : String} {characters : List Char}
    (spelled : title = String.ofList characters) (clear : escape ∉ characters) :
    Decorates (paintWith styled true style title.toList)
      (paintWith styled false style title.toList) :=
  .paint wraps _ (Text.not_mem_literal spelled clear)

theorem issueLines_decorates {issues : List Finding}
    (clear : ∀ issue ∈ issues, escape ∉ issue.description) :
    List.Forall₂ Decorates (issueLines (paintWith styled true) issues)
      (issueLines (paintWith styled false) issues) := by
  unfold issueLines
  split
  · exact .nil
  · refine .cons (title_decorates wraps _ rfl (by decide))
      (Decorates.rows fun issue member => .paint wraps _ ?_)
    refine List.not_mem_append (List.not_mem_append (List.not_mem_append ?_ ?_) ?_) ?_
    · exact Text.not_mem_labelled rfl (by decide) (clear issue member)
    · exact Text.not_mem_literal rfl (by decide)
    · cases issue.severity <;> decide
    · exact Text.not_mem_literal rfl (by decide)

theorem suggestionLines_decorates {suggestions : List Finding}
    (clear : ∀ suggestion ∈ suggestions, escape ∉ suggestion.description) :
    List.Forall₂ Decorates (suggestionLines (paintWith styled true) suggestions)
      (suggestionLines (paintWith styled false) suggestions) := by
  unfold suggestionLines
  split
  · exact .nil
  · refine .cons (title_decorates wraps _ rfl (by decide))
      (Decorates.rows fun suggestion member => .self ?_)
    exact Text.not_mem_labelled rfl (by decide) (clear suggestion member)

theorem file_decorates (lacks : review.Lacks escape) {entry : ReviewedFile}
    (member : entry ∈ review.files) :
    Decorates (file (paintWith styled true) entry) (file (paintWith styled false) entry) := by
  obtain ⟨name, summary, findings⟩ := lacks.files entry member
  obtain ⟨issues, suggestions⟩ := List.forall_mem_append.mp findings
  refine (Decorates.unlines ?_).append .lineFeed
  refine List.rel_append (List.rel_append (List.rel_append (.cons ?_ (.cons ?_ .nil)) ?_) ?_) ?_
  · exact .paint wraps _ (Text.not_mem_labelled rfl (by decide) name)
  · refine .paint wraps _ (Text.not_mem_labelled rfl (by decide) ?_)
    cases entry.analysis.rating <;> decide
  · exact summaryLines_decorates summary
  · exact issueLines_decorates wraps issues
  · exact suggestionLines_decorates wraps suggestions

theorem overall_decorates {summary : Text} (clear : escape ∉ summary) :
    List.Forall₂ Decorates (overall (paintWith styled true) summary)
      (overall (paintWith styled false) summary) := by
  unfold overall
  split
  · exact .nil
  · have stripped := (Decorates.self (escape_strip clear)).append .lineFeed
    exact .cons (title_decorates wraps _ rfl (by decide)) (.cons stripped .nil)

theorem rule_decorates {c : Char} (other : escape ≠ c) :
    Decorates (rule (paintWith styled true) c) (rule (paintWith styled false) c) :=
  .paint wraps _ fun member => other (List.eq_of_mem_replicate member)

theorem render_decorates (lacks : review.Lacks escape) :
    Decorates (render (paintWith styled true) review) (render (paintWith styled false) review) := by
  have double : escape ≠ '═' := by decide
  have single : escape ≠ '─' := by decide
  have overall := overall_decorates wraps lacks.summary
  refine Decorates.unlines
    (List.rel_append (List.rel_append (List.rel_append ?_ overall) ?_) ?_)
  · exact .cons (rule_decorates wraps double) <| .cons (title_decorates wraps _ rfl (by decide)) <|
      .cons ((rule_decorates wraps double).append .lineFeed) <|
      .cons (title_decorates wraps _ rfl (by decide)) <|
      .cons (total_decorates rfl (by decide) _) <| .cons (total_decorates rfl (by decide) _) <|
      .cons (total_decorates rfl (by decide) _) <|
      .cons ((total_decorates rfl (by decide) _).append .lineFeed) .nil
  · exact .cons (rule_decorates wraps single) <| .cons (title_decorates wraps _ rfl (by decide)) <|
      .cons ((rule_decorates wraps single).append .lineFeed) .nil
  · exact Decorates.rows fun entry member => file_decorates wraps lacks member

end

end PlainReport

namespace ReviewSet

theorem color_decorates {styled : Style → Text → Text} (wraps : Style.Wraps styled)
    (review : ReviewSet) :
    (review.Lacks escape →
      Style.uncolored (review.renderWith styled .text true) = review.renderWith styled .text false ∧
        escape ∉ review.renderWith styled .text false) ∧
    ∀ format, format ≠ .text → ∀ color,
      review.renderWith styled format color = review.renderWith styled format false := by
  constructor
  · intro lacks
    have decorates := PlainReport.render_decorates wraps lacks
    exact ⟨decorates.uncolored, decorates.clear⟩
  · intro format other color
    cases format with
    | text => exact absurd rfl other
    | json | github | markdown => rfl

-- A review that has something to color.
def poorFile : ReviewSet where
  summary := "**One** issue"
  stats := { files := 1, issues := 1 }
  files := [{ filename := "a.py"
              analysis := { filename := "a.py", rating := .poor, summary := "It uses eval"
                            issues := [{ category := .security, description := "eval(x)" }] } }]

theorem color_decorates_styled :
    poorFile.render .text true ≠ poorFile.render .text false ∧
      Style.uncolored (poorFile.render .text true) = poorFile.render .text false := by
  have lacks : poorFile.Lacks escape := ⟨by decide, by decide⟩
  have wraps : Style.Wraps Style.styled := fun style text => ⟨[style.code], by simp [Style.styled]⟩
  exact ⟨by decide +kernel, ((color_decorates wraps poorFile).1 lacks).1⟩

end ReviewSet

end PatchReview
