import PatchReview.Text.Lines
import PatchReview.World

-- The payload of the event that started a build: which repository and which pull request it is
-- about.
namespace PatchReview
namespace Event

-- The repository is whatever the payload holds; only its use asks for a text.
structure Reference where
  repository : Json
  number : Int
  deriving Repr

-- The value of a key; of a value without fields nothing can be asked.
def fieldOf (key : Text) : Json → Except Fault (Option Json)
  | .object fields => .ok (Json.lookup key fields)
  | _ => .error .noFields

def present (value : Option Json) : Option Json := value.filter Json.isPresent

-- A present field of a present record; an absent record has no fields, and no fault.
def nestedField (outer inner : Text) (payload : List (Text × Json)) : Except Fault (Option Json) :=
  match present (Json.lookup outer payload) with
  | none => .ok none
  | some record => present <$> fieldOf inner record

-- The number that a text spells, given as such.
def spelledNumber (given : Json) (text : Text) : Except Fault Int :=
  match Text.numeral text with
  | .number n => .ok n
  | .tooLong digits => .error (.refused (.numberTooLong digits))
  | .unreadable => .error (.refused (.notANumber given))

-- Numbers lose their fraction toward zero, and texts are read.
def toNumber : Json → Except Fault Int
  | .int n => .ok n
  | .bool b => .ok (if b then 1 else 0)
  | .real .undefined => .error (.refused .undefinedNumber)
  | .real (.infinite _) => .error .infiniteNumber
  | .real (.finite negative mantissa exponent) =>
    .ok (Text.signed negative (Binary64.whole mantissa exponent).1)
  | .string t => spelledNumber (.string t) t
  | .illFormed points => spelledNumber (.illFormed points) (Text.ofCodePoints points)
  | _ => .error .wrongKind

-- The number stands with the pull request or at the top; the repository in the payload or, failing
-- that, in the environment.
def ofPayload (payload : List (Text × Json)) (fallback : Option Text) : Except Fault Reference := do
  let nested ← nestedField "pull_request" "number" payload
  match nested.orElse fun _ => present (Json.lookup "number" payload) with
  | none => throw (.refused .eventWithoutPull)
  | some number =>
    let named ← nestedField "repository" "full_name" payload
    match named.orElse fun _ => fallback.map Json.string with
    | none => throw (.refused .eventWithoutRepository)
    | some repository => return { repository, number := ← toNumber number }

def parse (path document : Text) (levels : Nat) : Except Fault (List (Text × Json)) :=
  match Json.read document levels with
  | .error (.flawed flaw) => .error (.refused (.eventMalformed path document flaw))
  | .error (.numberTooLong digits) => .error (.refused (.numberTooLong digits))
  | .error (.tooDeep within) => .error (.tooDeep within)
  | .ok (.object fields) => .ok fields
  | .ok _ => .error (.refused (.eventNotObject path))

def load (path : Path) : Run Text := do
  if path.text.contains '\x00' then Run.refuse .nullInPath
  match (← get).files.read path with
  | .error cause => Run.refuse (.eventUnreadable path.text cause)
  | .ok bytes =>
    match Text.decodeUtf8 bytes with
    | .error cause => throw (.undecodable cause)
    | .ok document => return Text.normalizeNewlines document

def read (path : Path) : Run Reference := do
  let document ← load path
  let payload ← MonadExcept.ofExcept (parse path.text document (← get).levels)
  let fallback ← Run.envValue? "GITHUB_REPOSITORY"
  MonadExcept.ofExcept (ofPayload payload fallback)

end Event
end PatchReview
