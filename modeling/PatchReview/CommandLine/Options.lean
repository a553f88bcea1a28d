import PatchReview.Text.CharClass

-- Arguments of a program or a command: options by their names, in any order, before the other
-- arguments or among them. An argument is text: one whose bytes are not UTF-8 is left out of
-- account here.
namespace PatchReview
namespace CommandLine

inductive UsageError
  | noCommand
  | unknownCommand (name : Text)
  | unknownOption (name : Text)
  | missingValue (name : Text)
  | unwantedValue (name : Text)
  | missing (what : Text)
  | extraArgument (argument : Text)
  | notANumber (given : Text)
  | notAPath (given : Text)
  deriving DecidableEq, Repr

def UsageError.message : UsageError → Text
  | .noCommand => "a command is needed: pr, local, setup, action or scan"
  | .unknownCommand name => "no such command: " ++ name
  | .unknownOption name => "no such option: " ++ name
  | .missingValue name => "option " ++ name ++ " requires an argument"
  | .unwantedValue name => "option " ++ name ++ " does not take a value"
  | .missing what => "missing " ++ what
  | .extraArgument argument => "unexpected extra argument: " ++ argument
  | .notANumber given => "not a number: " ++ given
  | .notAPath given => "not a path: " ++ given

-- What an option does: it takes the next argument, or it turns something on or off.
inductive Effect
  | value
  | switch (on : Bool)
  deriving DecidableEq, Repr

-- `key` is what an option sets; several options may set one thing.
structure OptionSpec where
  key : Text
  names : List Text
  effect : Effect
  deriving DecidableEq, Repr

inductive Setting
  | value (text : Text)
  | switch (on : Bool)
  deriving DecidableEq, Repr

structure Arguments where
  settings : List (Text × Setting) := []
  others : List Text := []
  deriving DecidableEq, Repr

namespace Arguments

def set (a : Arguments) (key : Text) (setting : Setting) : Arguments :=
  { a with settings := a.settings ++ [(key, setting)] }

def setAll (a : Arguments) (settings : List (Text × Setting)) : Arguments :=
  { a with settings := a.settings ++ settings }

def add (a : Arguments) (others : List Text) : Arguments := { a with others := a.others ++ others }

-- The last setting of a key counts.
def last? (a : Arguments) (key : Text) : Option Setting :=
  (a.settings.reverse.find? fun entry => entry.1 = key).map (·.2)

def text? (a : Arguments) (key : Text) : Option Text :=
  match a.last? key with
  | some (.value text) => some text
  | _ => none

def isOn (a : Arguments) (key : Text) (otherwise : Bool) : Bool :=
  match a.last? key with
  | some (.switch on) => on
  | _ => otherwise

def wantsHelp (a : Arguments) : Bool := a.isOn "help" false

end Arguments

def helpOption : OptionSpec := ⟨"help", ["--help"], .switch true⟩

def findOption? (specs : List OptionSpec) (name : Text) : Option OptionSpec :=
  (helpOption :: specs).find? fun spec => spec.names.contains name

-- Settings made by one argument, and the option that still waits for its value.
structure Taken where
  settings : List (Text × Setting) := []
  waiting : Option (Text × Text) := none
  deriving DecidableEq, Repr

-- One-letter options may be written together; one that takes a value takes the rest of the
-- argument, or the next argument if nothing is left.
def takeLetters (specs : List OptionSpec) : Text → Except UsageError Taken
  | [] => .ok {}
  | letter :: rest =>
    let name : Text := ['-', letter]
    match findOption? specs name with
    | none => .error (.unknownOption name)
    | some spec =>
      match spec.effect with
      | .value =>
        if rest.isEmpty then .ok { waiting := some (spec.key, name) }
        else .ok { settings := [(spec.key, .value rest)] }
      | .switch on =>
        (takeLetters specs rest).map fun taken =>
          { taken with settings := (spec.key, .switch on) :: taken.settings }

-- A long option with its value attached, or without.
def takeLong (specs : List OptionSpec) (argument : Text) : Except UsageError Taken :=
  let (name, attached) :=
    match Text.cut? "=" argument with
    | some (name, value) => (name, some value)
    | none => (argument, none)
  match findOption? specs name with
  | none => .error (.unknownOption name)
  | some spec =>
    match spec.effect, attached with
    | .value, some value => .ok { settings := [(spec.key, .value value)] }
    | .value, none => .ok { waiting := some (spec.key, name) }
    | .switch on, none => .ok { settings := [(spec.key, .switch on)] }
    | .switch _, some _ => .error (.unwantedValue name)

-- An argument that begins with a dash and is more than one; all other arguments stand for
-- themselves.
def takeArgument (specs : List OptionSpec) : Text → Except UsageError (Option Taken)
  | '-' :: '-' :: rest => some <$> takeLong specs ('-' :: '-' :: rest)
  | '-' :: letter :: rest => some <$> takeLetters specs (letter :: rest)
  | _ => .ok none

-- Whether options may also stand after other arguments.
inductive Order
  | optionsFirst
  | mixed
  deriving DecidableEq, Repr

-- After `--` nothing is an option.
def parseArguments (order : Order) (specs : List OptionSpec) (done : Arguments) :
    List Text → Except UsageError Arguments
  | [] => .ok done
  | argument :: rest =>
    if argument = "--" then .ok (done.add rest)
    else
      match takeArgument specs argument with
      | .error e => .error e
      | .ok none =>
        match order with
        | .optionsFirst => .ok (done.add (argument :: rest))
        | .mixed => parseArguments order specs (done.add [argument]) rest
      | .ok (some taken) =>
        let done := done.setAll taken.settings
        match taken.waiting with
        | none => parseArguments order specs done rest
        | some (key, name) =>
          match rest with
          | [] => .error (.missingValue name)
          | value :: rest => parseArguments order specs (done.set key (.value value)) rest

end CommandLine
end PatchReview
