import PatchReview.CommandLine.Command

-- The five kinds of commands.  A command line names its kind and then gives the options of that
-- kind; a command that was read from it is of this kind, and holds what was given.
namespace PatchReview
namespace CommandLine

theorem ok_of_bind {α β : Type} {first : Except UsageError α} {next : α → Except UsageError β}
    {b : β} (ended : first >>= next = .ok b) : ∃ a, first = .ok a ∧ next a = .ok b := by
  cases first with
  | error fault => cases ended
  | ok a => exact ⟨a, rfl, ended⟩

inductive Kind
  | pull
  | workingTree
  | setup
  | action
  | scan
  deriving DecidableEq, Repr

def Command.kind? : Command → Option Kind
  | .pull _ => some .pull
  | .workingTree _ => some .workingTree
  | .setup _ => some .setup
  | .action _ => some .action
  | .scan _ => some .scan
  | .help => none

namespace Kind

def name : Kind → Text
  | pull => "pr"
  | workingTree => "local"
  | setup => "setup"
  | action => "action"
  | scan => "scan"

def specs : Kind → List OptionSpec
  | pull => pullSpecs
  | workingTree => localSpecs
  | setup => setupSpecs
  | action => actionSpecs
  | scan => scanSpecs

def make : Kind → Arguments → Except UsageError Command
  | pull => readPull
  | workingTree => readLocal
  | setup => readSetup
  | action => readAction
  | scan => readScan

theorem name_injective {kind other : Kind} (same : kind.name = other.name) : kind = other := by
  revert same
  cases kind <;> cases other <;> decide

theorem byName?_eq_some {name : Text} {command : List Text → Except UsageError Command}
    (known : byName? name = some command) :
    ∃ kind : Kind, name = kind.name ∧ command = parseCommand kind.specs kind.make := by
  unfold byName? at known
  split at known
  · exact ⟨pull, ‹_›, (Option.some.inj known).symm⟩
  split at known
  · exact ⟨workingTree, ‹_›, (Option.some.inj known).symm⟩
  split at known
  · exact ⟨setup, ‹_›, (Option.some.inj known).symm⟩
  split at known
  · exact ⟨action, ‹_›, (Option.some.inj known).symm⟩
  split at known
  · exact ⟨scan, ‹_›, (Option.some.inj known).symm⟩
  · cases known

variable {kind : Kind} {a : Arguments} {command : Command}

-- Each kind of command is read as itself.
theorem kind?_make (made : kind.make a = .ok command) : command.kind? = some kind := by
  cases kind with
  | pull =>
    obtain ⟨owner, -, made⟩ := ok_of_bind made
    obtain ⟨repository, -, made⟩ := ok_of_bind made
    obtain ⟨given, -, made⟩ := ok_of_bind made
    obtain ⟨-, -, made⟩ := ok_of_bind made
    split at made
    · cases made
      rfl
    · cases made
  | workingTree =>
    obtain ⟨-, -, made⟩ := ok_of_bind made
    obtain ⟨output, -, made⟩ := ok_of_bind made
    obtain ⟨directory, -, made⟩ := ok_of_bind made
    cases made
    rfl
  | setup =>
    obtain ⟨-, -, made⟩ := ok_of_bind made
    obtain ⟨path, -, made⟩ := ok_of_bind made
    cases made
    rfl
  | action =>
    obtain ⟨-, -, made⟩ := ok_of_bind made
    obtain ⟨event, -, made⟩ := ok_of_bind made
    cases made
    rfl
  | scan =>
    unfold make readScan at made
    dsimp only at made
    split at made
    · cases made
    · obtain ⟨paths, -, made⟩ := ok_of_bind made
      obtain ⟨output, -, made⟩ := ok_of_bind made
      cases made
      rfl

end Kind

-- A command line names a kind of command and tells it this.
def Tells (arguments : List Text) (kind : Kind) (a : Arguments) : Prop :=
  ∃ top rest, parseTop arguments = .ok top ∧ top.others = kind.name :: rest ∧
    parseArguments .mixed kind.specs {} rest = .ok a

variable {arguments : List Text} {kind other : Kind} {a b : Arguments} {command : Command}

theorem Tells.unique (tells : Tells arguments kind a) (again : Tells arguments other b) :
    kind = other ∧ a = b := by
  obtain ⟨top, rest, read, named, told⟩ := tells
  obtain ⟨_, _, readAgain, namedAgain, toldAgain⟩ := again
  cases read.symm.trans readAgain
  obtain ⟨name, rfl⟩ := List.cons.inj (named.symm.trans namedAgain)
  cases Kind.name_injective name
  cases told.symm.trans toldAgain
  exact ⟨rfl, rfl⟩

-- A command that is not just for help is what was told, as its kind reads it.
theorem tells_of_parse (accepted : parse arguments = .ok command) :
    command = .help ∨ ∃ kind a, Tells arguments kind a ∧ kind.make a = .ok command := by
  obtain ⟨top, read, accepted⟩ := ok_of_bind accepted
  split at accepted
  · cases accepted
    exact .inl rfl
  split at accepted
  · cases accepted
  rename_i name rest named
  split at accepted
  · rename_i known
    obtain ⟨kind, rfl, rfl⟩ := Kind.byName?_eq_some known
    obtain ⟨a, told, accepted⟩ := ok_of_bind accepted
    split at accepted
    · cases accepted
      exact .inl rfl
    · exact .inr ⟨kind, a, ⟨top, rest, read, named, told⟩, accepted⟩
  · obtain ⟨again, -, accepted⟩ := ok_of_bind accepted
    split at accepted
    · cases accepted
      exact .inl rfl
    · cases accepted

end CommandLine
end PatchReview
