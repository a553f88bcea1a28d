import PatchReview.Event
import PatchReview.Proofs.Settings.Resolved

-- What an event has to look like to be read.  Its payload comes from outside, and nothing but its
-- outermost value is checked: a value that is there but no record, no number or no text where one
-- is expected is not refused, and neither is a document that goes too deep.  All else is answered
-- or refused.
namespace PatchReview

namespace Json

def isRecord : Json → Bool
  | object _ => true
  | _ => false

-- A text, also one that is not all of characters.
def isText : Json → Bool
  | string _ | illFormed _ => true
  | _ => false

-- These are not even refused as numbers.
def isUncountable : Json → Bool
  | null | array _ | object _ | real (.infinite _) => true
  | _ => false

end Json

namespace Event

variable {payload : List (Text × Json)} {fallback : Option Text} {path : Path} {w : World}

def given? (key : Text) (payload : List (Text × Json)) : Option Json :=
  present (Json.lookup key payload)

-- An entry of a record that is itself an entry.
def inner? (outer inner : Text) (payload : List (Text × Json)) : Option Json :=
  match given? outer payload with
  | some (.object fields) => given? inner fields
  | _ => none

def number? (payload : List (Text × Json)) : Option Json :=
  (inner? "pull_request" "number" payload).or (given? "number" payload)

def repository? (payload : List (Text × Json)) (fallback : Option Text) : Option Json :=
  (inner? "repository" "full_name" payload).or (fallback.map Json.string)

-- There is an entry, and it is no record.
def Stray (key : Text) (payload : List (Text × Json)) : Prop :=
  ∃ value, given? key payload = some value ∧ value.isRecord = false

-- The ways in which a payload is not what it is taken to be.
inductive Misshapen (payload : List (Text × Json)) (fallback : Option Text) : Prop
  | pull (stray : Stray "pull_request" payload)
  | repository {number : Json} (numbered : number? payload = some number)
      (stray : Stray "repository" payload)
  | number {number repository : Json} (numbered : number? payload = some number)
      (named : repository? payload fallback = some repository)
      (uncountable : number.isUncountable = true)
  | name {number repository : Json} {n : Int} (numbered : number? payload = some number)
      (named : repository? payload fallback = some repository) (counted : toNumber number = .ok n)
      (untextual : repository.isText = false)

-- What reading an event should come to: a reference with a name that is not empty, or a refusal.
inductive Answered : Except Fault Reference → Prop
  | refused {fault : Fault} (value : fault.isValueFault = true) : Answered (.error fault)
  | found {reference : Reference} (text : reference.repository.isText = true)
      (filled : reference.repository.isPresent = true) : Answered (.ok reference)

theorem answered_error {fault : Fault} :
    Answered (.error fault) ↔ fault.isValueFault = true := by
  refine ⟨fun answered => ?_, .refused⟩
  cases answered with
  | refused value => exact value

theorem present_of_given? {key : Text} {value : Json} (held : given? key payload = some value) :
    value.isPresent = true := (Option.filter_eq_some_iff.mp held).2

theorem present_of_inner? {outer inner : Text} {value : Json}
    (held : inner? outer inner payload = some value) : value.isPresent = true := by
  unfold inner? at held
  split at held
  · exact present_of_given? held
  · cases held

theorem present_of_repository? {repository : Json} (filled : fallback ≠ some [])
    (named : repository? payload fallback = some repository) : repository.isPresent = true := by
  rcases Option.or_eq_some_iff.mp named with within | ⟨-, without⟩
  · exact present_of_inner? within
  · obtain ⟨name, rfl, rfl⟩ := Option.map_eq_some_iff.mp without
    cases name with
    | nil => exact absurd rfl filled
    | cons c rest => rfl

-- A field of what is no record cannot be asked for.
theorem nestedField_eq (outer inner : Text) (payload : List (Text × Json)) :
    (Stray outer payload ∧ nestedField outer inner payload = .error .noFields) ∨
      (¬Stray outer payload ∧
        nestedField outer inner payload = .ok (inner? outer inner payload)) := by
  unfold Stray nestedField inner? given?
  cases present (Json.lookup outer payload) with
  | none => exact .inr ⟨nofun, rfl⟩
  | some record =>
    cases record with
    | object fields => exact .inr ⟨by simp [Json.isRecord], rfl⟩
    | _ => exact .inl ⟨⟨_, rfl, rfl⟩, rfl⟩

theorem toNumber_uncountable {number : Json} (uncountable : number.isUncountable = true) :
    ∃ fault, toNumber number = .error fault ∧ fault.isValueFault = false := by
  cases number with
  | null | array | object => exact ⟨_, rfl, rfl⟩
  | real value =>
    cases value with
    | infinite => exact ⟨_, rfl, rfl⟩
    | _ => cases uncountable
  | _ => cases uncountable

theorem spelledNumber_ends (given : Json) (text : Text) :
    (∃ n, spelledNumber given text = .ok n) ∨
      ∃ fault, spelledNumber given text = .error fault ∧ fault.isValueFault = true := by
  unfold spelledNumber
  split
  · exact .inl ⟨_, rfl⟩
  · exact .inr ⟨_, rfl, rfl⟩
  · exact .inr ⟨_, rfl, rfl⟩

theorem toNumber_countable {number : Json} (countable : number.isUncountable = false) :
    (∃ n, toNumber number = .ok n) ∨
      ∃ fault, toNumber number = .error fault ∧ fault.isValueFault = true := by
  cases number with
  | int n => exact .inl ⟨n, rfl⟩
  | bool b => exact .inl ⟨_, rfl⟩
  | string text => exact spelledNumber_ends _ text
  | illFormed points => exact spelledNumber_ends _ _
  | real value =>
    cases value with
    | undefined => exact .inr ⟨_, rfl, rfl⟩
    | infinite => cases countable
    | finite => exact .inl ⟨_, rfl⟩
  | _ => cases countable

-- With the records in place, it is up to the number and the name.
theorem misshapen_iff {number repository : Json} (whole : ¬Stray "pull_request" payload)
    (record : ¬Stray "repository" payload) (numbered : number? payload = some number)
    (named : repository? payload fallback = some repository) :
    Misshapen payload fallback ↔ number.isUncountable = true ∨
      (∃ n, toNumber number = .ok n) ∧ repository.isText = false := by
  constructor
  · intro misshapen
    cases misshapen with
    | pull stray => exact absurd stray whole
    | repository _ stray => exact absurd stray record
    | number again _ uncountable =>
      cases numbered.symm.trans again
      exact .inl uncountable
    | name again found counted untextual =>
      cases numbered.symm.trans again
      cases named.symm.trans found
      exact .inr ⟨⟨_, counted⟩, untextual⟩
  · intro wrong
    rcases wrong with uncountable | ⟨⟨n, counted⟩, untextual⟩
    · exact .number numbered named uncountable
    · exact .name numbered named counted untextual

theorem answered_found {repository : Json} (filled : repository.isPresent = true) (n : Int) :
    Answered (.ok { repository, number := n }) ↔ repository.isText = true := by
  refine ⟨fun answered => ?_, fun text => .found text filled⟩
  cases answered with
  | found text => exact text

-- What is made of a payload once the number is found.
theorem referring_answered {number : Json} (filled : fallback ≠ some [])
    (whole : ¬Stray "pull_request" payload) (numbered : number? payload = some number) :
    Answered (do
      let named ← nestedField "repository" "full_name" payload
      match named.orElse fun _ => fallback.map Json.string with
      | none => throw (.refused .eventWithoutRepository)
      | some repository => return { repository, number := ← toNumber number }) ↔
      ¬Misshapen payload fallback := by
  rcases nestedField_eq "repository" "full_name" payload with ⟨stray, same⟩ | ⟨record, same⟩
  · rw [same]
    exact iff_of_false (nofun ∘ answered_error.mp) (not_not_intro (.repository numbered stray))
  rw [same]
  change Answered (match (inner? "repository" "full_name" payload).orElse fun _ =>
    fallback.map Json.string with | none => _ | some repository => _) ↔ _
  rw [Option.orElse_eq_or]
  change Answered (match repository? payload fallback with | none => _ | some repository => _) ↔ _
  cases named : repository? payload fallback with
  | none =>
    refine iff_of_true (.refused rfl) fun misshapen => ?_
    cases misshapen with
    | pull stray => exact whole stray
    | repository _ stray => exact record stray
    | number _ found | name _ found => cases named.symm.trans found
  | some repository =>
    rw [misshapen_iff whole record numbered named]
    change Answered (toNumber number >>= fun n => pure { repository, number := n }) ↔ _
    cases uncountable : number.isUncountable with
    | true =>
      obtain ⟨fault, ended, escapes⟩ := toNumber_uncountable uncountable
      rw [ended]
      exact answered_error.trans (by simp [escapes])
    | false =>
      rcases toNumber_countable uncountable with ⟨n, counted⟩ | ⟨fault, ended, value⟩
      · rw [counted]
        exact (answered_found (present_of_repository? filled named) n).trans (by simp)
      · rw [ended]
        exact answered_error.trans (by simp [value])

theorem ofPayload_answered (payload : List (Text × Json)) (filled : fallback ≠ some []) :
    Answered (ofPayload payload fallback) ↔ ¬Misshapen payload fallback := by
  unfold ofPayload
  rcases nestedField_eq "pull_request" "number" payload with ⟨stray, same⟩ | ⟨whole, same⟩
  · rw [same]
    exact iff_of_false (nofun ∘ answered_error.mp) (not_not_intro (.pull stray))
  rw [same]
  change Answered (match (inner? "pull_request" "number" payload).orElse fun _ =>
    given? "number" payload with | none => _ | some number => _) ↔ _
  rw [Option.orElse_eq_or]
  change Answered (match number? payload with | none => _ | some number => _) ↔ _
  cases numbered : number? payload with
  | none =>
    refine iff_of_true (.refused rfl) fun misshapen => ?_
    cases misshapen with
    | pull stray => exact whole stray
    | repository found | number found | name found => cases numbered.symm.trans found
  | some number => exact referring_answered filled whole numbered

-- A file that can be read as text, and what it says.
def Holds (w : World) (path : Path) (document : Text) : Prop :=
  path.text.contains '\x00' = false ∧ ∃ bytes text, w.files.read path = .ok bytes ∧
    Text.decodeUtf8 bytes = .ok text ∧ document = Text.normalizeNewlines text

-- An event that is neither answered nor refused.
inductive Unusable (w : World) (path : Path) : Prop
  | deep {document : Text} {within : Json.Container} (holds : Holds w path document)
      (deep : Json.read document w.levels = .error (.tooDeep within))
  | misshapen {document : Text} {payload : List (Text × Json)} (holds : Holds w path document)
      (parsed : Json.read document w.levels = .ok (.object payload))
      (misshapen : Misshapen payload (w.setting? "GITHUB_REPOSITORY"))

theorem load_on (path : Path) (w : World) :
    (∃ document, Holds w path document ∧ (load path).on w = (.ok document, w)) ∨
      (¬∃ document, Holds w path document) ∧
        ∃ fault, fault.isValueFault = true ∧ (load path).on w = (.error fault, w) := by
  unfold Holds load
  cases null : path.text.contains '\x00' with
  | true => exact .inr ⟨nofun, _, rfl, rfl⟩
  | false =>
    rw [if_neg nofun, Run.on_bind, Run.on_get]
    dsimp only
    cases read : w.files.read path with
    | error cause => exact .inr ⟨nofun, _, rfl, rfl⟩
    | ok bytes =>
      dsimp only
      cases decoded : Text.decodeUtf8 bytes with
      | error cause => exact .inr ⟨by simp [decoded], _, rfl, rfl⟩
      | ok text => exact .inl ⟨_, ⟨rfl, bytes, text, rfl, decoded, rfl⟩, rfl⟩

theorem Holds.unique {document other : Text} (holds : Holds w path document)
    (again : Holds w path other) : document = other := by
  obtain ⟨-, bytes, text, read, decoded, rfl⟩ := holds
  obtain ⟨-, others, same, readAgain, decodedAgain, rfl⟩ := again
  cases read.symm.trans readAgain
  cases decoded.symm.trans decodedAgain
  rfl

theorem parse_answered {document : Text} (holds : Holds w path document)
    (filled : w.setting? "GITHUB_REPOSITORY" ≠ some []) :
    Answered (parse path.text document w.levels >>= fun payload =>
      ofPayload payload (w.setting? "GITHUB_REPOSITORY")) ↔ ¬Unusable w path := by
  have unusable_iff : Unusable w path ↔
      (∃ within, Json.read document w.levels = .error (.tooDeep within)) ∨
        ∃ payload, Json.read document w.levels = .ok (.object payload) ∧
          Misshapen payload (w.setting? "GITHUB_REPOSITORY") := by
    constructor
    · intro unusable
      cases unusable with
      | deep again deep => exact .inl ⟨_, again.unique holds ▸ deep⟩
      | misshapen again parsed misshapen =>
        exact .inr ⟨_, again.unique holds ▸ parsed, misshapen⟩
    · intro wrong
      rcases wrong with ⟨within, deep⟩ | ⟨payload, parsed, misshapen⟩
      · exact .deep holds deep
      · exact .misshapen holds parsed misshapen
  rw [unusable_iff]
  unfold parse
  cases Json.read document w.levels with
  | error flaw =>
    cases flaw with
    | flawed | numberTooLong => exact iff_of_true (.refused rfl) (by simp)
    | tooDeep within => exact iff_of_false (nofun ∘ answered_error.mp) (by simp)
  | ok value =>
    cases value with
    | object payload => exact (ofPayload_answered payload filled).trans (by simp)
    | _ => exact iff_of_true (.refused rfl) (by simp)

-- Reading an event leaves the world as it is.
theorem read_on (path : Path) (w : World) :
    ∃ outcome, (read path).on w = (outcome, w) ∧ (Answered outcome ↔ ¬Unusable w path) := by
  have filled : w.setting? "GITHUB_REPOSITORY" ≠ some [] := fun set => World.setting?_ne_nil set rfl
  unfold read
  rw [Run.on_bind]
  rcases load_on path w with ⟨document, holds, ran⟩ | ⟨missing, fault, value, ran⟩
  · refine ⟨_, ?_, parse_answered holds filled⟩
    rw [ran]
    dsimp only
    rw [Run.on_bind, Run.on_get]
    dsimp only
    rw [Run.on_bind, Run.on_ofExcept]
    cases parse path.text document w.levels with
    | error fault => rfl
    | ok payload =>
      dsimp only
      rw [Run.on_bind, Run.on_envValue?]
      exact Run.on_ofExcept _ w
  · rw [ran]
    refine ⟨_, rfl, iff_of_true (.refused value) fun unusable => ?_⟩
    cases unusable with
    | deep holds | misshapen holds => exact missing ⟨_, holds⟩

end Event
end PatchReview
