import PatchReview.Proofs.CommandLine.Kinds
import PatchReview.Proofs.CommandLine.PullExit
import PatchReview.Proofs.FileTree.Writing
import PatchReview.Proofs.Pattern.Replacing
import PatchReview.Proofs.Run.Surface

-- What the command line writes.  Git may change files when a working tree is reviewed.  Apart from
-- that, a command either leaves all files as they are, or it writes the one file that it was told
-- to and has then nothing to complain about; so whatever is refused is refused before anything is
-- written.
namespace PatchReview

open Run (Moves)

namespace FileScan

variable {R : World → World → Prop} [IsPreorder World R]

-- A scan takes notes and does nothing else.
theorem reviewPaths_moves (blind : Run.LogBlind R) (paths : List Text) (recursive : Bool) :
    Moves R (reviewPaths paths recursive) := by
  have expanding (given : Text) : Moves R (expand recursive given) := by
    intro w
    obtain ⟨outcome, entries, ran, -⟩ := expand_on recursive given w
    rw [ran]
    exact blind w w w.log _ (refl_of R w)
  have reviewing (path : Path) : Moves R (reviewPath path) := by
    refine Moves.get.bind fun w => ?_
    split
    · exact .throw _
    · split
      · exact .pure _
      · split
        · exact .pure _
        · exact .throw _
  refine ((Moves.mapM expanding paths).map _).bind fun files => ?_
  refine (Moves.mapM reviewing files).bind fun reviewed => ?_
  exact (Moves.log blind _ _ _).bind fun _ => .pure _

end FileScan

namespace CommandLine

-- What is shown of a complaint is never nothing.
theorem Complains.complained_ne {w after : World} (complains : Complains w after) :
    after.complained ≠ w.complained := by
  obtain ⟨message, said⟩ := complains
  rw [said]
  intro same
  have nothing := List.append_right_eq_self.mp same
  unfold forStream at nothing
  split at nothing
  · cases nothing
  · change Style.controlSequence.keepFrom 0 [] 0 ('E' :: _) = [] at nothing
    rw [Capture.keepFrom_passed rfl] at nothing
    cases nothing

-- Git is only asked where it may be, no file is changed but by it, and nothing is complained about.
structure Quiet (git : Bool) (w after : World) : Prop where
  left : AsLeft (fun call => git || !call.isGit) w after
  complained : after.complained = w.complained

variable {git : Bool}

namespace Quiet

theorem refl (w : World) : Quiet git w w := ⟨.refl w, rfl⟩

instance : IsPreorder World (Quiet git) where
  refl := refl
  trans _ _ _ first second :=
    ⟨first.left.trans second.left, second.complained.trans first.complained⟩

theorem blind : Run.LogBlind (Quiet git) := fun w after before later same =>
  ⟨AsLeft.blind w after before later same.left, same.complained⟩

theorem noting (entries : List LogEntry) (w : World) : Quiet git w { w with log := entries } :=
  blind w w w.log entries (refl w)

theorem follows (token key : Text) : Follows (Quiet git) token key := by
  refine (SameSurface.follows token key).mono blind fun same => ⟨same.left.mono ?_, same.complained⟩
  intro call other
  rw [other, Bool.or_true]

theorem command (arguments : List Text) (directory : Text) :
    Moves (Quiet true) (Git.command arguments directory) :=
  Git.command_moves fun w => ⟨.asking rfl w, rfl⟩

theorem resolve (given : Option Text) : Moves (Quiet git) (Settings.resolve given) := by
  intro w
  rw [Settings.resolve_on]
  exact refl w

theorem ofSettings (settings : Settings) : Moves (Quiet git) (Analyzer.ofSettings settings) := by
  intro w
  obtain ⟨entries, ran⟩ := Analyzer.ofSettings_on settings w
  rw [ran]
  exact noting entries w

theorem checkAccess (settings : Settings) (repository : Json) :
    Moves (Quiet git) (checkAccess settings repository) := by
  have token : Moves (Quiet git) settings.requireToken := by
    unfold Settings.requireToken
    split
    · exact .pure _
    · exact .refuse _
  have name : Moves (Quiet git) (Repository.validateGiven repository) := by
    unfold Repository.validateGiven Repository.validate
    split
    · split
      · exact .pure _
      · exact .refuse _
    · exact .refuse _
    · exact .throw _
  exact token.bind fun _ => name.bind fun _ => .pure _

theorem read (path : Path) : Moves (Quiet git) (Event.read path) := by
  intro w
  obtain ⟨outcome, ran, -⟩ := Event.read_on path w
  rw [ran]
  exact refl w

theorem scanning (options : ScanOptions) : Moves (Quiet git) (scanning options) := by
  refine (FileScan.reviewPaths_moves blind _ _).bind fun review => ?_
  split
  · exact .pure _
  · exact .refuse _

end Quiet

-- Something may be printed; no file is changed, and nobody is asked for anything.
structure Prints (w after : World) : Prop where
  calls : after.calls = w.calls
  git : w.SameGit after
  complained : after.complained = w.complained

namespace Prints

variable {w after : World}

instance : IsPreorder World Prints where
  refl w := ⟨rfl, .refl w, rfl⟩
  trans _ _ _ first second := ⟨second.calls.trans first.calls, first.git.trans second.git,
    second.complained.trans first.complained⟩

theorem echo (text : Text) : Moves Prints (echo text) := fun _ => ⟨rfl, ⟨rfl, rfl, rfl⟩, rfl⟩

theorem echoAll (lines : List Text) : Moves Prints (lines.forM CommandLine.echo) := by
  intro w
  rw [echoAll_on]
  exact ⟨rfl, ⟨rfl, rfl, rfl⟩, rfl⟩

theorem quiet (prints : Prints w after) : Quiet git w after :=
  ⟨⟨[], prints.calls.trans (List.append_nil _).symm, nofun, prints.git⟩, prints.complained⟩

end Prints

-- All files are as git leaves them, or on top of that one was written that may be, and nothing was
-- complained about.
inductive WritesAtMost (git : Bool) (may : FileTree → Path → Prop) (w after : World) : Prop
  | kept (left : AsLeft (fun call => git || !call.isGit) w after)
  | wrote {middle : World} {path : Path} {content : Text.Bytes} (quiet : Quiet git w middle)
      (told : may middle.files path) (written : middle.files.write path content = .ok after.files)
      (calls : after.calls = middle.calls) (complained : after.complained = middle.complained)

namespace WritesAtMost

variable {α : Type} {may : FileTree → Path → Prop} {w middle after : World}

theorem behind (quiet : Quiet git w middle) (writes : WritesAtMost git may middle after) :
    WritesAtMost git may w after := by
  cases writes with
  | kept left => exact .kept (quiet.left.trans left)
  | wrote more told written calls complained =>
    exact .wrote (trans_of (Quiet git) quiet more) told written calls complained

theorem exit (code : ExitCode) : Moves (WritesAtMost git may) (pure code) :=
  fun w => .kept (.refl w)

theorem fail (message : Text) : Moves (WritesAtMost git may) (fail message) := fun _ =>
  .kept ⟨[], (List.append_nil _).symm, nofun, ⟨rfl, rfl, rfl⟩⟩

theorem andThen {β : Type} {action : Run α} {next : α → Run β} (first : Moves (Quiet git) action)
    (rest : ∀ a, Moves (WritesAtMost git may) (next a)) :
    Moves (WritesAtMost git may) (action >>= next) := by
  intro w
  have quiet := first w
  rw [Run.on_bind]
  rcases ended : action.on w with ⟨fault | a, middle⟩
  · rw [ended] at quiet
    exact .kept quiet.left
  · rw [ended] at quiet
    exact (rest a middle).behind quiet

theorem showing (text : Text) {next : Unit → Run ExitCode}
    (rest : ∀ u, Moves (WritesAtMost git may) (next u)) :
    Moves (WritesAtMost git may) (echo text >>= next) :=
  andThen (fun w => (Prints.echo text w).quiet) rest

-- A refusal comes before all that could be written.
theorem orFail {action : Run α} {next : α → Run ExitCode} (first : Moves (Quiet git) action)
    (rest : ∀ a, Moves (WritesAtMost git may) (next a)) :
    Moves (WritesAtMost git may) (orFail action next) := by
  refine andThen first.refusable fun value => ?_
  split
  · exact rest _
  · exact fail _

-- Where writing fails, nothing has been written.
theorem writeFile {path : Path} (told : may w.files path) (text : Text) {rest : Run ExitCode}
    (prints : Moves Prints rest) :
    WritesAtMost git may w ((writeFile path text >>= fun _ => rest).on w).2 := by
  unfold CommandLine.writeFile
  rw [Run.on_bind, Run.on_bind, Run.on_get]
  dsimp only
  cases written : w.files.write path (Text.encodeUtf8 text) with
  | error cause => exact .kept (.refl w)
  | ok files =>
    have prints := prints { w with files }
    have left : w.files.write path (Text.encodeUtf8 text) =
        .ok (rest.on { w with files }).2.files := by
      rw [prints.git.files]
      exact written
    exact .wrote (.refl w) told left prints.calls prints.complained

end WritesAtMost

-- The file that a command may write, which a setup may only where there is nothing yet or by force.
inductive MayWrite : Command → FileTree → Path → Prop
  | workingTree {options : LocalOptions} {tree : FileTree} {path : Path}
      (told : options.output = some path) : MayWrite (.workingTree options) tree path
  | scan {options : ScanOptions} {tree : FileTree} {path : Path}
      (told : options.output = some path) : MayWrite (.scan options) tree path
  | setup {options : SetupOptions} {tree : FileTree}
      (free : options.force = true ∨ tree.ask options.path = .ok none) :
    MayWrite (.setup options) tree options.path

section
variable {may : FileTree → Path → Prop}

theorem reportPull_writes (repository : Text) (number : Int) (state : PullReview.State)
    (format : Text) (color : Bool) :
    Moves (WritesAtMost git may) (reportPull repository number state format color) := by
  have posting (text : Text) : Moves (WritesAtMost git may)
      (if state.posted then echo text >>= fun _ => pure 0 else pure 0) := by
    split
    · exact .showing _ fun _ => .exit _
    · exact .exit _
  unfold reportPull
  dsimp only
  split
  · refine .showing _ fun _ => ?_
    split
    · exact .fail _
    · exact posting _
  · split
    · exact .fail _
    · exact posting _

theorem runPull_writes (repository : Json) (number : Int) (settings : Settings) (format : Text)
    (post approve : Bool) :
    Moves (WritesAtMost git may) (runPull repository number settings format post approve) := by
  refine .orFail (.checkAccess settings repository) fun access => ?_
  refine .andThen (.ofSettings settings) fun analyzer => ?_
  refine .andThen (PullReview.run_moves (Quiet.follows _ _)) fun state => ?_
  exact reportPull_writes _ _ _ _ _

end

-- Only the review of a working tree asks git for anything.
def Command.asksGit : Command → Bool
  | .workingTree _ => true
  | .pull _ | .setup _ | .action _ | .scan _ | .help => false

theorem execute_writes (command : Command) :
    Moves (WritesAtMost command.asksGit (MayWrite command)) (execute command) := by
  cases command with
  | pull options => exact .andThen (.resolve _) fun settings => runPull_writes _ _ _ _ _ _
  | workingTree options =>
    refine .andThen (.resolve _) fun settings => ?_
    refine .orFail ?_ fun review => ?_
    · exact (Quiet.ofSettings settings).bind fun analyzer =>
        (Quiet.follows [] _).reviewWorkingTree Quiet.command _
    · dsimp only
      split
      · exact .showing _ fun _ => .exit _
      · rename_i path told
        exact fun w => .writeFile (.workingTree told) _ ((Prints.echo _).bind fun _ => .pure _)
  | setup options =>
    intro w
    unfold execute runSetup
    rw [Run.on_bind, Run.on_get]
    dsimp only
    split
    · exact .kept (.refl w)
    · rename_i found asked
      split
      · exact .fail _ w
      · rename_i free
        refine .writeFile (.setup ?_) _
          ((Prints.echo _).bind fun _ => (Prints.echo _).bind fun _ => .pure _)
        cases found with
        | none => exact .inr asked
        | some node => exact .inl (by simpa using free)
  | action options =>
    intro w
    rw [action_on]
    refine (?_ : Moves (WritesAtMost false (MayWrite (.action options))) _) w
    split
    · exact .fail _
    · exact .orFail (.read _) fun reference => runPull_writes _ _ _ _ _ _
  | scan options =>
    refine .orFail (.scanning options) fun found => ?_
    refine .andThen (fun w => (Prints.echoAll _ w).quiet) fun _ => ?_
    dsimp only
    split
    · rename_i path told
      exact fun w => .writeFile (.scan told) _ ((Prints.echo _).bind fun _ => .pure _)
    · exact .exit _
  | help => exact .exit _

-- The file that a command line tells a command to write, if any.
def Kind.target? : Kind → Arguments → Option Path
  | .workingTree, a | .scan, a => (a.text? "output").map .ofText
  | .setup, a => some (((a.text? "path").map .ofText).getD (.ofText ".env.example"))
  | .pull, _ | .action, _ => none

variable {arguments : List Text} {kind : Kind} {a : Arguments} {command : Command}
  {tree : FileTree} {path : Path}

theorem path?_eq {key : Text} {given : Option Path} (read : a.path? key = .ok given) :
    given = (a.text? key).map .ofText := by
  unfold Arguments.path? at read
  cases said : a.text? key with
  | none =>
    rw [said] at read
    exact (Except.ok.inj read).symm
  | some text =>
    rw [said] at read
    dsimp only at read
    unfold readPath at read
    split at read
    · cases read
    · exact (Except.ok.inj read).symm

-- A command may write what it was told, and nothing that is there unless it was told to.
theorem MayWrite.target (may : MayWrite command tree path) (made : kind.make a = .ok command) :
    kind.target? a = some path ∧
      (kind = .setup → a.isOn "force" false = true ∨ tree.ask path = .ok none) := by
  cases may with
  | workingTree told =>
    cases Kind.kind?_make made
    obtain ⟨-, -, made⟩ := ok_of_bind made
    obtain ⟨output, read, made⟩ := ok_of_bind made
    obtain ⟨directory, -, made⟩ := ok_of_bind made
    cases made
    exact ⟨(path?_eq read).symm.trans told, nofun⟩
  | scan told =>
    cases Kind.kind?_make made
    unfold Kind.make readScan at made
    dsimp only at made
    split at made
    · cases made
    obtain ⟨paths, -, made⟩ := ok_of_bind made
    obtain ⟨output, read, made⟩ := ok_of_bind made
    cases made
    exact ⟨(path?_eq read).symm.trans told, nofun⟩
  | setup free =>
    cases Kind.kind?_make made
    obtain ⟨-, -, made⟩ := ok_of_bind made
    obtain ⟨given, read, made⟩ := ok_of_bind made
    cases made
    cases path?_eq read
    exact ⟨rfl, fun _ => free⟩

-- Nothing is done about a command line that is not accepted.
def carryOut (arguments : List Text) : Run ExitCode :=
  match parse arguments with
  | .ok command => execute command
  | .error _ => return 2

def asksGit (arguments : List Text) : Bool :=
  match parse arguments with
  | .ok command => command.asksGit
  | .error _ => false

theorem tells_of_asksGit (asks : asksGit arguments = true) :
    ∃ a, Tells arguments .workingTree a := by
  unfold asksGit at asks
  cases accepted : parse arguments with
  | error flaw =>
    rw [accepted] at asks
    cases asks
  | ok command =>
    rw [accepted] at asks
    cases command with
    | workingTree options =>
      rcases tells_of_parse accepted with helps | ⟨kind, a, tells, made⟩
      · cases helps
      · cases Kind.kind?_make made
        exact ⟨a, tells⟩
    | pull | setup | action | scan | help => cases asks

theorem carryOut_writes (arguments : List Text) :
    Moves (WritesAtMost (asksGit arguments) fun tree path => ∃ kind a, Tells arguments kind a ∧
      kind.target? a = some path ∧
      (kind = .setup → a.isOn "force" false = true ∨ tree.ask path = .ok none))
      (carryOut arguments) := by
  unfold carryOut asksGit
  cases accepted : parse arguments with
  | error flaw => exact .exit _
  | ok command =>
    refine (execute_writes command).mono fun writes => ?_
    cases writes with
    | kept left => exact .kept left
    | wrote quiet may written calls complained =>
      rcases tells_of_parse accepted with rfl | ⟨kind, a, tells, made⟩
      · cases may
      · exact .wrote quiet ⟨kind, a, tells, may.target made⟩ written calls complained

-- Apart from what git makes of the files, they stay or one is written.
theorem WritesAtMost.told {may : FileTree → Path → Prop} {w after : World}
    (writes : WritesAtMost git may w after) :
    ∃ calls, after.calls = w.calls ++ calls ∧
      (git = false → (w.replay calls).files = w.files) ∧
      (after.files = (w.replay calls).files ∨ after.complained = w.complained ∧
        ∃ path content, may (w.replay calls).files path ∧
          (w.replay calls).files.write path content = .ok after.files) := by
  have still {calls : List Call} (kinds : ∀ call ∈ calls, (git || !call.isGit) = true)
      (never : git = false) : (w.replay calls).files = w.files := by
    rw [w.replay_others fun call member => ?_]
    simpa [never] using kinds call member
  cases writes with
  | kept left =>
    obtain ⟨calls, added, kinds, same⟩ := left
    exact ⟨calls, added, still kinds, .inl same.files⟩
  | wrote quiet told written made complained =>
    obtain ⟨calls, added, kinds, same⟩ := quiet.left
    rw [same.files] at told written
    exact ⟨calls, made.trans added, still kinds,
      .inr ⟨complained.trans quiet.complained, _, _, told, written⟩⟩

theorem writes_where_told (arguments : List Text) (w : World) :
    ∃ outcome after calls, (carryOut arguments).on w = (outcome, after) ∧
      after.calls = w.calls ++ calls ∧
      ((∃ a, Tells arguments .workingTree a) ∨ (w.replay calls).files = w.files) ∧
      (after.files = (w.replay calls).files ∨ ∃ kind a path place, Tells arguments kind a ∧
        kind.target? a = some path ∧ (w.replay calls).files.locate path = .ok place ∧
        ∀ other, other ≠ place →
          after.files.nodeAt? other = (w.replay calls).files.nodeAt? other) ∧
      (∀ a, Tells arguments .pull a ∨ Tells arguments .action a → after.files = w.files) ∧
      (Complains w after → after.files = (w.replay calls).files) ∧
      ∀ a, Tells arguments .setup a → a.isOn "force" false = false → ∀ place node,
        w.files.nodeAt? place = some node → after.files.nodeAt? place = some node := by
  have writes := (carryOut_writes arguments w).told
  rcases ran : (carryOut arguments).on w with ⟨outcome, after⟩
  rw [ran] at writes
  obtain ⟨calls, added, still, writes⟩ := writes
  have other {kind : Kind} {a : Arguments} (tells : Tells arguments kind a)
      (different : kind ≠ .workingTree) : (w.replay calls).files = w.files := by
    refine still (Bool.eq_false_iff.mpr fun asks => ?_)
    obtain ⟨b, again⟩ := tells_of_asksGit asks
    exact different (tells.unique again).1
  refine ⟨outcome, after, calls, rfl, added, ?_, ?_⟩
  · cases asks : asksGit arguments with
    | true => exact .inl (tells_of_asksGit asks)
    | false => exact .inr (still asks)
  rcases writes with same | ⟨quiet, path, content, ⟨kind, a, tells, target, free⟩, written⟩
  · refine ⟨.inl same, ?_, fun _ => same, fun a tells unforced place node there => ?_⟩
    · rintro a (tells | tells)
      · exact same.trans (other tells nofun)
      · exact same.trans (other tells nofun)
    · rw [same, other tells nofun]
      exact there
  · obtain ⟨place, located, elsewhere⟩ := FileTree.write_elsewhere written
    refine ⟨.inr ⟨kind, a, path, place, tells, target, located, elsewhere⟩, ?_, ?_, ?_⟩
    · rintro b (pull | action)
      · cases (tells.unique pull).1
        cases target
      · cases (tells.unique action).1
        cases target
    · exact fun complains => absurd quiet complains.complained_ne
    · intro b setup unforced place node there
      rw [← other setup nofun] at there
      obtain ⟨rfl, rfl⟩ := tells.unique setup
      rcases free rfl with forced | asked
      · cases unforced.symm.trans forced
      · exact FileTree.write_keeps asked written there

def keptFiles : FileTree where
  files := [([".env.example"], Text.encodeUtf8 "keep me")]

-- A report may go to where its scan reads, and an example stays that is already there.
theorem writes_where_told_inside :
    (∃ outcome after, (carryOut ["scan", "-r", "d", "-o", "d/report.json"]).on
        (onlyFiles leakyFiles) = (outcome, after) ∧
      ∀ other : Place, other ≠ ["d", "report.json"] →
        after.files.nodeAt? other = leakyFiles.nodeAt? other) ∧
    ∃ outcome after, (carryOut ["setup"]).on (onlyFiles keptFiles) = (outcome, after) ∧
      after.files.nodeAt? [".env.example"] = some (.file (Text.encodeUtf8 "keep me")) := by
  constructor
  · let a : Arguments :=
      ⟨[("recursive", .switch true), ("output", .value "d/report.json")], ["d"]⟩
    have tells : Tells ["scan", "-r", "d", "-o", "d/report.json"] .scan a :=
      ⟨⟨[], ["scan", "-r", "d", "-o", "d/report.json"]⟩, ["-r", "d", "-o", "d/report.json"],
        by decide +kernel, rfl, by decide +kernel⟩
    have located : leakyFiles.locate (.ofText "d/report.json") = .ok ["d", "report.json"] := by
      decide +kernel
    obtain ⟨outcome, after, calls, ran, -, others, told, -⟩ :=
      writes_where_told ["scan", "-r", "d", "-o", "d/report.json"] (onlyFiles leakyFiles)
    refine ⟨outcome, after, ran, fun other different => ?_⟩
    rcases others with ⟨b, again⟩ | same
    · cases (tells.unique again).1
    rw [same] at told
    rcases told with same | ⟨kind, b, path, place, again, target, leads, elsewhere⟩
    · rw [same]
      rfl
    · obtain ⟨rfl, rfl⟩ := tells.unique again
      cases (show some (Path.ofText "d/report.json") = some path from target)
      cases located.symm.trans leads
      exact elsewhere other different
  · have tells : Tells ["setup"] .setup {} := ⟨⟨[], ["setup"]⟩, [], by decide +kernel, rfl, rfl⟩
    obtain ⟨outcome, after, calls, ran, -, -, -, -, -, kept⟩ :=
      writes_where_told ["setup"] (onlyFiles keptFiles)
    exact ⟨outcome, after, ran, kept {} tells rfl _ _ rfl⟩

-- A diff between two branches goes to a file if the first is named like an option for that; the
-- file is made empty before it is known whether there is a branch of the other name.
def diffLeaves (arguments : List Text) (_ : Text) (files : FileTree) : FileTree :=
  match arguments with
  | [_, base, _] =>
    match Text.after? "--output=" base with
    | some name => (files.write (.ofText name) []).toOption.getD files
    | none => files
  | _ => files

def ownNotes (reply : GitReply) : World :=
  { onlyFiles { files := [(["notes.txt"], Text.encodeUtf8 "mine")] } with
    gitReplies := [reply], gitLeaves := diffLeaves }

def intoNotes : List Text := ["local", "--base=--output=notes.txt", "--compare", "HEAD"]

-- A review of a working tree that was told no file to write can yet change one, and also where it
-- ends with a complaint.
theorem writes_untold :
    (∃ a, Tells intoNotes .workingTree a ∧ Kind.workingTree.target? a = none) ∧
    ((carryOut intoNotes).on (ownNotes (.output []))).2.files.nodeAt? ["notes.txt"] ≠
      (ownNotes (.output [])).files.nodeAt? ["notes.txt"] ∧
    Complains (ownNotes (.failed 128 none))
      ((carryOut intoNotes).on (ownNotes (.failed 128 none))).2 ∧
    ((carryOut intoNotes).on (ownNotes (.failed 128 none))).2.files ≠
      (ownNotes (.failed 128 none)).files := by
  refine ⟨?_, by decide +kernel, ?_, by decide +kernel⟩
  · let a : Arguments := ⟨[("base", .value "--output=notes.txt"), ("compare", .value "HEAD")], []⟩
    exact ⟨a, ⟨⟨[], intoNotes⟩, intoNotes.tail, by decide +kernel, rfl, by decide +kernel⟩, rfl⟩
  · refine ⟨"Failed to get branch diff: git diff --output=notes.txt HEAD failed: exit status 128",
      ?_⟩
    decide +kernel

end CommandLine
end PatchReview
