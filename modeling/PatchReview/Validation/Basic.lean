import PatchReview.Json.Diagnostic
import PatchReview.Review.Names

-- Checked reading of records from JSON values.  All problems of a record are collected, in the
-- order of its fields, each with its place and the value that was found there.
namespace PatchReview.Validation

inductive Step
  | field (name : Text)
  | index (place : Nat)
  deriving DecidableEq, Repr

inductive Fault
  | missing
  | notText
  | notUnicode
  | notNamed (options : List Text)
  | notWhole
  | hasFraction
  | notFinite
  | unreadableWhole
  | tooLarge
  | notRecord (model : Text)
  | notList
  | notJson (detail : Text)
  deriving DecidableEq, Repr

structure Problem where
  path : List Step
  fault : Fault
  input : Json
  deriving Repr

-- A value given as such, or the text of a JSON document: two faults are worded differently.
inductive InputForm
  | value
  | document
  deriving DecidableEq, Repr

structure Report where
  title : Text
  form : InputForm := .value
  problems : List Problem
  deriving Repr

def Fault.code : Fault → Text
  | .missing => "missing"
  | .notText => "string_type"
  | .notUnicode => "string_unicode"
  | .notNamed _ => "literal_error"
  | .notWhole => "int_type"
  | .hasFraction => "int_from_float"
  | .notFinite => "finite_number"
  | .unreadableWhole => "int_parsing"
  | .tooLarge => "int_parsing_size"
  | .notRecord _ => "model_type"
  | .notList => "tuple_type"
  | .notJson _ => "json_invalid"

-- 'a', 'b' or 'c'
def choices : List Text → Text
  | [] => []
  | [only] => "'" ++ only ++ "'"
  | [a, b] => "'" ++ a ++ "' or '" ++ b ++ "'"
  | a :: rest => "'" ++ a ++ "', " ++ choices rest

def Fault.message (form : InputForm) : Fault → Text
  | .missing => "Field required"
  | .notText => "Input should be a valid string"
  | .notUnicode =>
    "Input should be a valid string, unable to parse raw data as a unicode string"
  | .notNamed options => "Input should be " ++ choices options
  | .notWhole => "Input should be a valid integer"
  | .hasFraction => "Input should be a valid integer, got a number with a fractional part"
  | .notFinite => "Input should be a finite number"
  | .unreadableWhole => "Input should be a valid integer, unable to parse string as an integer"
  | .tooLarge => "Unable to parse input string as an integer, exceeded maximum size"
  | .notRecord model =>
    match form with
    | .value => "Input should be a valid dictionary or instance of " ++ model
    | .document => "Input should be an object"
  | .notList =>
    match form with
    | .value => "Input should be a valid tuple"
    | .document => "Input should be a valid array"
  | .notJson detail => "Invalid JSON: " ++ detail

def Step.text : Step → Text
  | .field name => name
  | .index place => Text.ofNat place

-- At most `limit` bytes of UTF-8 from the front, whole characters only.
def withinBytes (limit : Nat) : Text → Text
  | [] => []
  | c :: rest => if c.utf8Size ≤ limit then c :: withinBytes (limit - c.utf8Size) rest else []

-- A long value shows its first 25 and its last 24 bytes.
def abridged (text : Text) : Text :=
  if Text.byteLength text ≤ 50 then text
  else
    let last : Text := (withinBytes 24 text.reverse).reverse
    withinBytes 25 text ++ "..." ++ last

def Problem.message (form : InputForm) (p : Problem) : Text :=
  let place : Text := if p.path = [] then [] else Text.joinWith "." (p.path.map Step.text) ++ "\n"
  place ++ "  " ++ p.fault.message form ++ " [type=" ++ p.fault.code ++ ", input_value=" ++
    abridged p.input.diagnostic ++ ", input_type=" ++ p.input.kind ++
    "]\n    For further information visit https://errors.pydantic.dev/2.14/v/" ++ p.fault.code

def Report.message (r : Report) : Text :=
  let count := r.problems.length
  Text.ofNat count ++ (if count = 1 then " validation error for " else " validation errors for ") ++
    r.title ++ "\n" ++ Text.joinWith "\n" (r.problems.map (Problem.message r.form))

inductive Checked (α : Type) where
  | valid (value : α)
  | invalid (problems : List Problem)

namespace Checked

variable {α β : Type}

def map (f : α → β) : Checked α → Checked β
  | valid a => valid (f a)
  | invalid problems => invalid problems

-- Problems on both sides are kept, those of the left side first.
def both (f : Checked (α → β)) (a : Checked α) : Checked β :=
  match f, a with
  | valid f, valid a => valid (f a)
  | valid _, invalid problems => invalid problems
  | invalid problems, valid _ => invalid problems
  | invalid first, invalid second => invalid (first ++ second)

instance : Functor Checked := ⟨map, fun a => map fun _ => a⟩

instance : Applicative Checked where
  pure := valid
  seq f a := both f (a ())

def toExcept (title : Text) : Checked α → Except Report α
  | valid a => .ok a
  | invalid problems => .error { title, problems }

end Checked

-- `path` leads to the value being read.
abbrev Decoder (α : Type) := (path : List Step) → Json → Checked α

def fault {α : Type} (f : Fault) : Decoder α := fun path input => .invalid [⟨path, f, input⟩]

def text : Decoder Text := fun path input =>
  match input with
  | .string t => .valid t
  | .illFormed _ => fault .notUnicode path input
  | _ => fault .notText path input

def nullable {α : Type} (inner : Decoder α) : Decoder (Option α) := fun path input =>
  match input with
  | .null => .valid none
  | _ => (inner path input).map some

def named (α : Type) [Named α] : Decoder α := fun path input =>
  let options := Fault.notNamed ((Named.all : List α).map Named.name)
  match input with
  | .string t =>
    match Named.ofName? t with
    | some a => .valid a
    | none => fault options path input
  | _ => fault options path input

def listItems {α : Type} (inner : Decoder α) (path : List Step) : Nat → List Json → Checked (List α)
  | _, [] => .valid []
  | place, item :: rest =>
    List.cons <$> inner (path ++ [.index place]) item <*> listItems inner path (place + 1) rest

def list {α : Type} (inner : Decoder α) : Decoder (List α) := fun path input =>
  match input with
  | .array items => listItems inner path 0 items
  | _ => fault .notList path input

def record {α : Type} (model : Text) (fields : List Step → List (Text × Json) → Json → Checked α) :
    Decoder α := fun path input =>
  match input with
  | .object entries => fields path entries input
  | _ => fault (.notRecord model) path input

-- A field of a record; `absent` says what an absent one means.
def fieldOr {α : Type} (absent : Option α) (name : Text) (inner : Decoder α) (path : List Step)
    (entries : List (Text × Json)) (whole : Json) : Checked α :=
  match Json.lookup name entries with
  | some value => inner (path ++ [.field name]) value
  | none =>
    match absent with
    | some a => .valid a
    | none => fault .missing (path ++ [.field name]) whole

end PatchReview.Validation
