import Mathlib.Algebra.Ring.Int.Defs
import PatchReview.Proofs.Json.ReadBack
import PatchReview.Proofs.Validation.Decoder
import PatchReview.Report.Render

-- A review as a JSON document.  The document gives back exactly the review that was written, field
-- by field and in the same order, as long as none of its numbers is too long to be read.
namespace PatchReview

open Validation

theorem Severity.ofName?_name (s : Severity) : Named.ofName? (Named.name s) = some s := by
  cases s <;> rfl

theorem Category.ofName?_name (c : Category) : Named.ofName? (Named.name c) = some c := by
  cases c <;> rfl

theorem Rating.ofName?_name (r : Rating) : Named.ofName? (Named.name r) = some r := by
  cases r <;> rfl

theorem Origin.ofName?_name (o : Origin) : Named.ofName? (Named.name o) = some o := by
  cases o <;> rfl

theorem Scope.ofName?_name (s : Scope) : Named.ofName? (Named.name s) = some s := by
  cases s <;> rfl

theorem optionalText_undoes : Decoder.Undoes (nullable text) optionalText :=
  nullable_undoes text_undoes (by simp)

theorem optionalInt_undoes : Decoder.Undoes (nullable whole) optionalInt :=
  nullable_undoes whole_undoes (by simp)

theorem Finding.decoder_undoes : Finding.decoder.Undoes Finding.toJson := by
  intro path f
  simp only [Finding.decoder, record, Finding.toJson]
  rw [fieldOr_found (named_undoes Category.ofName?_name) rfl,
    fieldOr_found (named_undoes Severity.ofName?_name) rfl, fieldOr_found optionalInt_undoes rfl,
    fieldOr_found text_undoes rfl, fieldOr_found optionalText_undoes rfl]
  rfl

theorem FileReview.decoder_undoes : FileReview.decoder.Undoes FileReview.toJson := by
  intro path r
  simp only [FileReview.decoder, record, FileReview.toJson]
  rw [fieldOr_found text_undoes rfl, fieldOr_found (named_undoes Rating.ofName?_name) rfl,
    fieldOr_found text_undoes rfl, fieldOr_found (list_undoes Finding.decoder_undoes) rfl,
    fieldOr_found (list_undoes Finding.decoder_undoes) rfl,
    fieldOr_found (named_undoes Origin.ofName?_name) rfl]
  rfl

theorem FileChanges.decoder_undoes : FileChanges.decoder.Undoes FileChanges.toJson := by
  intro path c
  simp only [FileChanges.decoder, record, FileChanges.toJson]
  rw [fieldOr_found optionalText_undoes rfl, fieldOr_found whole_undoes rfl,
    fieldOr_found whole_undoes rfl]
  rfl

theorem ReviewedFile.decoder_undoes : ReviewedFile.decoder.Undoes ReviewedFile.toJson := by
  intro path f
  have changes := nullable_undoes FileChanges.decoder_undoes fun c => by simp [FileChanges.toJson]
  simp only [ReviewedFile.decoder, record, ReviewedFile.toJson]
  rw [fieldOr_found text_undoes rfl, fieldOr_found changes rfl,
    fieldOr_found FileReview.decoder_undoes rfl]
  rfl

theorem ReviewStats.decoder_undoes : ReviewStats.decoder.Undoes ReviewStats.toJson := by
  intro path s
  simp only [ReviewStats.decoder, record, ReviewStats.toJson]
  rw [fieldOr_found whole_undoes rfl, fieldOr_found whole_undoes rfl,
    fieldOr_found whole_undoes rfl, fieldOr_found whole_undoes rfl]
  rfl

theorem ReviewSet.decoder_undoes : ReviewSet.decoder.Undoes ReviewSet.toJson := by
  intro path r
  simp only [ReviewSet.decoder, record, ReviewSet.toJson]
  rw [fieldOr_found text_undoes rfl, fieldOr_found ReviewStats.decoder_undoes rfl,
    fieldOr_found (list_undoes ReviewedFile.decoder_undoes) rfl,
    fieldOr_found (named_undoes Scope.ofName?_name) rfl]
  rfl

-- The numbers that each record holds, in the order in which they are written.
def Finding.numbers (f : Finding) : List Int := f.line.toList

def FileReview.numbers (r : FileReview) : List Int :=
  r.issues.flatMap Finding.numbers ++ r.suggestions.flatMap Finding.numbers

def FileChanges.numbers (c : FileChanges) : List Int := [c.additions, c.deletions]

def ReviewedFile.numbers (f : ReviewedFile) : List Int :=
  f.changes.elim [] FileChanges.numbers ++ f.analysis.numbers

def ReviewStats.numbers (s : ReviewStats) : List Int :=
  [s.files, s.issues, s.suggestions, s.security]

def ReviewSet.numbers (r : ReviewSet) : List Int :=
  r.stats.numbers ++ r.files.flatMap ReviewedFile.numbers

theorem ints_array {α : Type} {write : α → Json} {numbers : α → List Int}
    (same : ∀ a, (write a).ints = numbers a) (items : List α) :
    (Json.array (items.map write)).ints = items.flatMap numbers := by
  simp only [Json.ints]
  induction items with
  | nil => rfl
  | cons item items ih => simp only [List.map_cons, Json.itemInts, ih, same, List.flatMap_cons]

theorem Finding.ints_toJson (f : Finding) : f.toJson.ints = f.numbers := by
  cases f with
  | mk category severity line description rule =>
    cases line <;> cases rule <;>
      simp [Finding.toJson, Finding.numbers, Json.ints, Json.fieldInts, optionalInt, optionalText]

theorem FileReview.ints_toJson (r : FileReview) : r.toJson.ints = r.numbers := by
  have issues := ints_array Finding.ints_toJson r.issues
  have suggestions := ints_array Finding.ints_toJson r.suggestions
  simp only [FileReview.toJson, FileReview.numbers, Json.ints, Json.fieldInts] at *
  simp [issues, suggestions]

theorem FileChanges.ints_toJson (c : FileChanges) : c.toJson.ints = c.numbers := by
  cases c with
  | mk status additions deletions =>
    cases status <;>
      simp [FileChanges.toJson, FileChanges.numbers, Json.ints, Json.fieldInts, optionalText]

theorem ReviewedFile.ints_toJson (f : ReviewedFile) : f.toJson.ints = f.numbers := by
  have analysis := f.analysis.ints_toJson
  cases f with
  | mk filename changes review =>
    cases changes with
    | none => simp [ReviewedFile.toJson, ReviewedFile.numbers, Json.ints, Json.fieldInts, analysis]
    | some c =>
      simp [ReviewedFile.toJson, ReviewedFile.numbers, Json.ints, Json.fieldInts, analysis,
        c.ints_toJson]

theorem ReviewStats.ints_toJson (s : ReviewStats) : s.toJson.ints = s.numbers := by
  simp [ReviewStats.toJson, ReviewStats.numbers, Json.ints, Json.fieldInts]

theorem ReviewSet.ints_toJson (r : ReviewSet) : r.toJson.ints = r.numbers := by
  have files := ints_array ReviewedFile.ints_toJson r.files
  have stats := r.stats.ints_toJson
  simp only [ReviewSet.toJson, ReviewSet.numbers, Json.ints, Json.fieldInts] at *
  simp [files, stats]

theorem plain_array {α : Type} {room : Nat} {write : α → Json}
    (plain : ∀ a, Json.Plain room (write a)) (items : List α) :
    Json.Plain (room + 1) (.array (items.map write)) := by
  refine .array ?_
  intro item member
  obtain ⟨a, -, rfl⟩ := List.mem_map.mp member
  exact plain a

theorem plain_optionalText (room : Nat) (t : Option Text) : Json.Plain room (optionalText t) := by
  cases t
  · exact .null
  · exact .string _

theorem plain_optionalInt (room : Nat) (n : Option Int) : Json.Plain room (optionalInt n) := by
  cases n
  · exact .null
  · exact .int _

theorem Finding.plain (room : Nat) (f : Finding) : Json.Plain (room + 1) f.toJson := by
  refine .object (by simp) ?_
  simp only [List.forall_mem_cons]
  exact ⟨.string _, .string _, plain_optionalInt room _, .string _, plain_optionalText room _,
    by simp⟩

theorem FileReview.plain (room : Nat) (r : FileReview) : Json.Plain (room + 3) r.toJson := by
  refine .object (by simp) ?_
  simp only [List.forall_mem_cons]
  exact ⟨.string _, .string _, .string _, plain_array (Finding.plain room) _,
    plain_array (Finding.plain room) _, .string _, by simp⟩

theorem FileChanges.plain (room : Nat) (c : FileChanges) : Json.Plain (room + 1) c.toJson := by
  refine .object (by simp) ?_
  simp only [List.forall_mem_cons]
  exact ⟨plain_optionalText room _, .int _, .int _, by simp⟩

theorem ReviewedFile.plain (room : Nat) (f : ReviewedFile) : Json.Plain (room + 4) f.toJson := by
  have changes : Json.Plain (room + 3) (f.changes.elim .null FileChanges.toJson) := by
    cases f.changes
    · exact .null
    · exact FileChanges.plain (room + 2) _
  refine .object (by simp) ?_
  simp only [List.forall_mem_cons]
  exact ⟨.string _, changes, FileReview.plain room _, by simp⟩

theorem ReviewStats.plain (room : Nat) (s : ReviewStats) : Json.Plain (room + 1) s.toJson := by
  refine .object (by simp) ?_
  simp only [List.forall_mem_cons]
  exact ⟨.int _, .int _, .int _, .int _, by simp⟩

theorem ReviewSet.plain (room : Nat) (r : ReviewSet) : Json.Plain (room + 6) r.toJson := by
  refine .object (by simp) ?_
  simp only [List.forall_mem_cons]
  exact ⟨.string _, ReviewStats.plain (room + 4) _, plain_array (ReviewedFile.plain room) _,
    .string _, by simp⟩

-- What comes of the document of a review, whatever the review.
theorem ReviewSet.ofDocument_pretty (signCounts : Bool) (review : ReviewSet) :
    (Json.Readable signCounts review.numbers →
        ofDocument review.toJson.pretty signCounts = .ok review) ∧
      (¬ Json.Readable signCounts review.numbers →
        ∃ report, ofDocument review.toJson.pretty signCounts = .error report) := by
  have settled := Json.Document.settles_pretty signCounts (ReviewSet.plain 194 review)
  rw [ReviewSet.ints_toJson] at settled
  constructor
  · intro readable
    have decoded : ofJson review.toJson = .ok review := by
      rw [ofJson, ReviewSet.decoder_undoes]
      rfl
    rw [ofDocument, settled.1 readable]
    simp only [decoded]
    rfl
  · intro long
    obtain ⟨flaw, refused⟩ := settled.2 long
    rw [ofDocument, refused]
    exact ⟨_, rfl⟩

-- Numbers of up to 4300 digits come back like everything else, or of one less after a minus sign
-- that counts as a digit; a longer one spoils the document.
theorem ReviewSet.ofDocument_render (signCounts color : Bool) (review : ReviewSet) :
    ((∀ n ∈ review.numbers, Json.digitsOf signCounts n ≤ Text.digitLimit) →
        ofDocument (review.render .json color) signCounts = .ok review) ∧
      ((∃ n ∈ review.numbers, Text.digitLimit < Json.digitsOf signCounts n) →
        ∃ report, ofDocument (review.render .json color) signCounts = .error report) := by
  refine ⟨(review.ofDocument_pretty signCounts).1, ?_⟩
  rintro ⟨n, member, long⟩
  apply (review.ofDocument_pretty signCounts).2
  intro readable
  exact Nat.not_lt.mpr (readable n member) long

theorem lt_digitsOf_pow (signCounts : Bool) {limit : Nat} (given : 0 < limit) :
    limit < Json.digitsOf signCounts (10 ^ limit) := by
  by_contra few
  have digits := le_trans (Nat.le_add_right _ _) (Nat.not_lt.mp few)
  rw [Int.natAbs_pow, Text.length_ofNat_le_iff given] at digits
  exact Nat.lt_irrefl _ digits

-- The first number that is too long to come back, whether a sign counts or not.
theorem ReviewSet.long_number_refused :
    let review : ReviewSet := { stats := { files := 10 ^ Text.digitLimit } }
    ∀ signCounts, ofDocument (review.render .json false) signCounts ≠ .ok review := by
  intro review signCounts same
  have long : ¬ Json.Readable signCounts review.numbers := fun readable =>
    Nat.not_lt.mpr (readable review.stats.files (List.mem_append_left _ List.mem_cons_self))
      (lt_digitsOf_pow signCounts (by decide))
  obtain ⟨report, refused⟩ := (review.ofDocument_pretty signCounts).2 long
  rw [render, renderWith, refused] at same
  cases same

end PatchReview
