import PatchReview.FileScan
import PatchReview.Proofs.FileTree.Below
import PatchReview.Proofs.Run.Course

-- One path of a scan, as the text that is given for it.  Nothing is there, or it is not told what
-- is, or it stands for some files; each way in which this can go is one case of `Expands`.
namespace PatchReview
namespace FileScan

variable {tree : FileTree} {recursive : Bool} {given : Text}

-- There is neither a file nor a directory; a null character leads nowhere.
def Missing (tree : FileTree) (given : Text) : Prop :=
  '\x00' ∈ given ∨ ¬tree.Reaches (.ofText given) ∧ ¬tree.Barred (.ofText given)

-- It is not told what is there, or, where all below is wanted, what something below it is.
def Hidden (tree : FileTree) (recursive : Bool) (given : Text) : Prop :=
  '\x00' ∉ given ∧
    (tree.Barred (.ofText given) ∨ recursive = true ∧ tree.Blocked (.ofText given))

def skipping (path : Path) : LogEntry :=
  ⟨.warning, .reviewing, "Skipping directory " ++ path.text ++ " (use --recursive)"⟩

-- How the expansion ends, and what is logged on the way.
inductive Expands (tree : FileTree) (recursive : Bool) (given : Text) :
    Except Fault (List Path) → List LogEntry → Prop
  | missing (missing : Missing tree given) :
    Expands tree recursive given (.error (.refused (.pathNotFound (Path.ofText given).text))) []
  | hidden {cause : FileError} (hidden : Hidden tree recursive given) :
    Expands tree recursive given (.error (.file cause)) []
  | file {content : Text.Bytes} (clear : '\x00' ∉ given)
      (found : tree.lookup (.ofText given) = .ok (.file content)) :
    Expands tree recursive given (.ok [.ofText given]) []
  | skipped (clear : '\x00' ∉ given) (flat : recursive = false)
      (found : tree.lookup (.ofText given) = .ok .directory) :
    Expands tree recursive given (.ok []) [skipping (.ofText given)]
  | walked {place : Place} (clear : '\x00' ∉ given) (wanted : recursive = true)
      (located : tree.locate (.ofText given) = .ok place)
      (there : tree.nodeAt? place = some .directory) (told : ¬tree.Blocked (.ofText given)) :
    Expands tree recursive given (.ok ((tree.below place).map (Path.ofText given).extend)) []

theorem missing_of_lookup (nothing : ∀ node, tree.lookup (.ofText given) = .ok node → node = .sink)
    (told : ¬tree.Barred (.ofText given)) : Missing tree given :=
  .inr ⟨FileTree.not_reaches nothing, told⟩

theorem not_missing (clear : '\x00' ∉ given) (reaches : tree.Reaches (.ofText given)) :
    ¬Missing tree given := by
  intro missing
  rcases missing with null | ⟨nowhere, -⟩
  · exact clear null
  · exact nowhere reaches

theorem not_hidden (reaches : tree.Reaches (.ofText given))
    (told : recursive = true → ¬tree.Blocked (.ofText given)) :
    ¬Hidden tree recursive given := by
  intro hidden
  rcases hidden.2 with barred | ⟨wanted, blocked⟩
  · exact reaches.not_barred barred
  · exact told wanted blocked

theorem Hidden.not_missing (hidden : Hidden tree recursive given) : ¬Missing tree given := by
  intro missing
  rcases missing with null | ⟨nowhere, told⟩
  · exact hidden.1 null
  · rcases hidden.2 with barred | ⟨-, blocked⟩
    · exact told barred
    · exact nowhere (.inr blocked.lookup)

-- A text that stands for some files, be it none, is followed.
theorem Expands.followed {files : List Path} {entries : List LogEntry}
    (expands : Expands tree recursive given (.ok files) entries) :
    ¬Missing tree given ∧ ¬Hidden tree recursive given := by
  cases expands with
  | @file content clear found =>
    have reaches : tree.Reaches (.ofText given) := .inl ⟨content, found⟩
    refine ⟨not_missing clear reaches, not_hidden reaches fun _ blocked => ?_⟩
    cases found.symm.trans blocked.lookup
  | skipped clear flat found =>
    refine ⟨not_missing clear (.inr found), not_hidden (.inr found) fun wanted => ?_⟩
    cases flat.symm.trans wanted
  | walked clear _ located there told =>
    have reaches : tree.Reaches (.ofText given) := .inr (FileTree.lookup_located located there)
    exact ⟨not_missing clear reaches, not_hidden reaches fun _ => told⟩

theorem expand_on (recursive : Bool) (given : Text) (w : World) :
    ∃ outcome entries, (expand recursive given).on w =
        (outcome, { w with log := w.log ++ entries }) ∧
      Expands w.files recursive given outcome entries := by
  have quiet (outcome : Except Fault (List Path)) :
      (outcome, w) = (outcome, { w with log := w.log ++ [] }) := by rw [List.append_nil]
  unfold expand
  dsimp only
  by_cases null : '\x00' ∈ given
  · have named : Git.hasNull given = true := by simpa [Git.hasNull] using null
    rw [named, if_pos rfl]
    exact ⟨_, [], quiet _, .missing (.inl null)⟩
  have named : Git.hasNull given = false := by simpa [Git.hasNull] using null
  rw [named, if_neg Bool.false_ne_true, Run.on_bind, Run.on_get]
  dsimp only
  unfold FileTree.ask
  cases looked : w.files.lookup (.ofText given) with
  | error fault =>
    have nothing (node : FileTree.Node) (found : w.files.lookup (.ofText given) = .ok node) :
        node = .sink := nomatch looked.symm.trans found
    cases fault with
    | nameTooLong => exact ⟨_, [], quiet _, .hidden ⟨null, .inl (.inl looked)⟩⟩
    | denied => exact ⟨_, [], quiet _, .hidden ⟨null, .inl (.inr looked)⟩⟩
    | notFound | notDirectory | isDirectory =>
      have told : ¬w.files.Barred (.ofText given) := by
        rintro (long | denied)
        · cases looked.symm.trans long
        · cases looked.symm.trans denied
      exact ⟨_, [], quiet _, .missing (missing_of_lookup nothing told)⟩
  | ok node =>
    cases node with
    | sink =>
      have told : ¬w.files.Barred (.ofText given) := FileTree.not_barred looked
      have sunk (node : FileTree.Node) (found : w.files.lookup (.ofText given) = .ok node) :
          node = .sink := (Except.ok.inj (looked.symm.trans found)).symm
      exact ⟨_, [], quiet _, .missing (missing_of_lookup sunk told)⟩
    | file content => exact ⟨_, [], quiet _, .file null looked⟩
    | directory =>
      cases recursive with
      | false => exact ⟨_, [skipping (.ofText given)], rfl, .skipped null rfl looked⟩
      | true =>
        obtain ⟨place, located, there⟩ := FileTree.lookup_directory looked
        dsimp only
        rcases FileTree.filesUnder_spec located there with ⟨cause, walked, blocked⟩ | ⟨told, walked⟩
        · rw [walked]
          exact ⟨_, [], quiet _, .hidden ⟨null, .inr ⟨rfl, blocked⟩⟩⟩
        · rw [walked]
          exact ⟨_, [], quiet _, .walked null rfl located there told⟩

end FileScan
end PatchReview
