import Mathlib.Data.List.TakeWhile
import PatchReview.Proofs.Host.Posting

-- Which texts name a repository.  Just an owner and a name with one slash between them, and also
-- such a text with one line feed behind it; with any other text nothing is asked of the code host.
-- What has half a pair of surrogates in it is no text here, and is refused as a value.
namespace PatchReview

namespace Repository

-- Word characters, dots and hyphens, at least one.
structure IsPart (part : Text) : Prop where
  given : part ≠ []
  characters : ∀ c ∈ part, Text.isWord c = true ∨ c = '.' ∨ c = '-'

def IsNamed (name : Text) : Prop :=
  ∃ owner rest, name = owner ++ '/' :: rest ∧ IsPart owner ∧ IsPart rest

-- The text of a name, as it stands alone on a line.
def IsNamedLine (name : Text) : Prop := ∃ plain, IsNamed plain ∧ name = plain ++ ['\n']

variable {part name : Text}

theorem isNameChar_iff {c : Char} :
    isNameChar c = true ↔ Text.isWord c = true ∨ c = '.' ∨ c = '-' := by
  simp [isNameChar, or_assoc]

theorem IsPart.nameChars (proper : IsPart part) : ∀ c ∈ part, isNameChar c = true :=
  fun c member => isNameChar_iff.mpr (proper.characters c member)

theorem isPart_takeWhile (given : (name.takeWhile isNameChar).isEmpty = false) :
    IsPart (name.takeWhile isNameChar) where
  given := List.isEmpty_eq_false_iff.mp given
  characters _ member := isNameChar_iff.mp (List.mem_takeWhile_imp member)

-- A part ends where a character stands that is none of its own.
theorem IsPart.ends (proper : IsPart part) {behind : Text}
    (stops : ∀ c ∈ behind.head?, isNameChar c = false) :
    (part ++ behind).takeWhile isNameChar = part ∧
      (part ++ behind).dropWhile isNameChar = behind := by
  rw [List.takeWhile_append_of_pos proper.nameChars, List.dropWhile_append_of_pos proper.nameChars]
  cases behind with
  | nil => exact ⟨List.append_nil part, rfl⟩
  | cons c behind =>
    have other : ¬isNameChar c = true := Bool.not_eq_true _ ▸ stops c rfl
    rw [List.takeWhile_cons_of_neg other, List.dropWhile_cons_of_neg other]
    exact ⟨List.append_nil part, rfl⟩

theorem isValid_of_parts {owner rest behind : Text} (one : IsPart owner) (two : IsPart rest)
    (ended : behind = [] ∨ behind = ['\n']) :
    isValid (owner ++ '/' :: (rest ++ behind)) = true := by
  have slash : ∀ c ∈ ('/' :: (rest ++ behind)).head?, isNameChar c = false := by
    intro c first
    cases first
    rfl
  have last : ∀ c ∈ behind.head?, isNameChar c = false := by
    intro c first
    rcases ended with rfl | rfl <;> cases first
    rfl
  unfold isValid
  rw [(one.ends slash).1, (one.ends slash).2]
  simp only [(two.ends last).1, (two.ends last).2]
  simp [one.given, two.given, ended]

theorem parts_of_isValid (valid : isValid name = true) :
    ∃ owner rest behind, name = owner ++ '/' :: (rest ++ behind) ∧ IsPart owner ∧ IsPart rest ∧
      (behind = [] ∨ behind = ['\n']) := by
  unfold isValid at valid
  dsimp only at valid
  split at valid
  · rename_i rest shape
    simp only [Bool.and_eq_true, Bool.not_eq_true', Bool.or_eq_true, decide_eq_true_eq] at valid
    obtain ⟨⟨owned, named⟩, ended⟩ := valid
    refine ⟨_, _, _, ?_, isPart_takeWhile owned, isPart_takeWhile named, ended⟩
    rw [List.takeWhile_append_dropWhile, ← shape, List.takeWhile_append_dropWhile]
  · cases valid

theorem isValid_iff : isValid name = true ↔ IsNamed name ∨ IsNamedLine name := by
  constructor
  · intro valid
    obtain ⟨owner, rest, behind, rfl, one, two, ended⟩ := parts_of_isValid valid
    rcases ended with rfl | rfl
    · exact .inl ⟨owner, rest, by simp, one, two⟩
    · exact .inr ⟨owner ++ '/' :: rest, ⟨owner, rest, rfl, one, two⟩, by simp⟩
  · intro named
    rcases named with ⟨owner, rest, rfl, one, two⟩ | ⟨plain, ⟨owner, rest, rfl, one, two⟩, rfl⟩
    · simpa using isValid_of_parts one two (.inl rfl)
    · simpa using isValid_of_parts one two (.inr rfl)

example : isValid "o/r\n" = true ∧ isValid "o/r\n\n" = false := by decide +kernel

theorem validate_valid (valid : isValid name = true) (w : World) :
    (validate name).on w = (.ok name, w) := by
  unfold validate
  rw [if_pos valid]
  rfl

theorem validate_invalid (invalid : isValid name = false) (w : World) :
    (validate name).on w = (.error (.refused (.repository (.string name))), w) := by
  unfold validate
  rw [if_neg (Bool.eq_false_iff.mp invalid)]
  rfl

end Repository

namespace Host

variable {name token : Text} {number : Int} {w : World}

-- The name is looked at before anything is asked of the outside.
theorem openPull_invalid (invalid : Repository.isValid name = false) (number : Int) (token : Text)
    (w : World) :
    (openPull name number token).on w = (.error (.refused (.repository (.string name))), w) := by
  unfold openPull
  rw [Run.on_bind, Repository.validate_invalid invalid]

-- Only failures of the service are explained.
theorem explaining_stopped {α : Type} {fault : Fault} {action : Run α}
    (stopped : action.on w = (.error fault, w)) (own : ∀ status data, fault ≠ .service status data)
    (explain : Int → Json → Run α) : (explaining explain action).on w = (.error fault, w) := by
  rw [explaining_on, stopped]
  cases fault with
  | service status data => exact absurd rfl (own status data)
  | _ => rfl

section
variable {fault : Fault} (stopped : (openPull name number token).on w = (.error fault, w))
  (own : ∀ status data, fault ≠ .service status data)
include stopped own

-- Where the pull request cannot be opened, nothing else is asked.
theorem fetchPull_stopped : (fetchPull name number token).on w = (.error fault, w) :=
  explaining_stopped stopped own _

theorem fetchFiles_stopped : (fetchFiles name number token).on w = (.error fault, w) := by
  unfold fetchFiles
  refine explaining_stopped ?_ own _
  rw [Run.on_bind, stopped]

theorem post_stopped {submission : Submission} {event : Text}
    (known : knownEvent? submission.event = some event) :
    (post name number submission token).on w = (.error fault, w) := by
  unfold post submit
  rw [known]
  refine explaining_stopped ?_ own _
  rw [Run.on_bind, stopped]

end

end Host

namespace Repository

-- The three operations stop at a name that is refused, and leave the world as it was.
theorem named_or_refused (name : Text) (w : World) :
    (IsNamed name → (validate name).on w = (.ok name, w)) ∧
    (IsNamedLine name → (validate name).on w = (.ok name, w)) ∧
    (¬IsNamed name → ¬IsNamedLine name →
      let refused : Fault := .refused (.repository (.string name))
      refused.isValueFault = true ∧ (validate name).on w = (.error refused, w) ∧
      ∀ number token, (Host.fetchPull name number token).on w = (.error refused, w) ∧
        (Host.fetchFiles name number token).on w = (.error refused, w) ∧
        ∀ submission event, Host.knownEvent? submission.event = some event →
          (Host.post name number submission token).on w = (.error refused, w)) ∧
    ∀ points, (validateGiven (.illFormed points)).on w =
      (.error (.refused (.repository (.illFormed points))), w) := by
  refine ⟨fun named => ?_, fun line => ?_, fun unnamed nor => ?_, fun _ => rfl⟩
  · exact validate_valid (isValid_iff.mpr (.inl named)) w
  · exact validate_valid (isValid_iff.mpr (.inr line)) w
  · have invalid : isValid name = false := by
      rw [← Bool.not_eq_true, isValid_iff]
      exact not_or_intro unnamed nor
    refine ⟨rfl, validate_invalid invalid w, fun number token => ?_⟩
    have stopped := Host.openPull_invalid invalid number token w
    exact ⟨Host.fetchPull_stopped stopped nofun, Host.fetchFiles_stopped stopped nofun,
      fun _ _ known => Host.post_stopped stopped nofun known⟩

end Repository
end PatchReview
