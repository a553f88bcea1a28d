import PatchReview.Proofs.FileScan.Expanding
import PatchReview.Proofs.Path.Reading
import PatchReview.Proofs.Reviewing.EachFile
import PatchReview.Proofs.Run.Looking

-- What a scan reads.  It collects the files that its paths stand for, passes over those that are no
-- text, and fails only where a path leads nowhere, where it is not told what is there, and where a
-- file that was collected may not be read or has text under a name that is none.
namespace PatchReview
namespace FileScan

variable {recursive : Bool} {path : Path} {paths : List Path}

-- A path that cannot be followed to the end.
def Unreadable (tree : FileTree) (recursive : Bool) (path : Path) : Prop :=
  ¬tree.Reaches path ∨ recursive = true ∧ tree.Blocked path

-- A file with this content ends a scan: it may not be read, or it is text and its path is not.
def Spoils (tree : FileTree) (file : Path) (content : Text.Bytes) : Prop :=
  (∃ cause, tree.read file = .error cause) ∨
    file.whole.isText = false ∧ ∃ text, Text.decodeUtf8 content = .ok text

section
variable {tree : FileTree}

theorem readable_file {content : Text.Bytes} (looked : tree.lookup path = .ok (.file content)) :
    ¬Unreadable tree recursive path := by
  rintro (missing | ⟨-, blocked⟩)
  · exact missing (.inl ⟨content, looked⟩)
  · cases looked.symm.trans blocked.lookup

theorem readable_directory (looked : tree.lookup path = .ok .directory)
    (told : recursive = true → ¬tree.Blocked path) : ¬Unreadable tree recursive path := by
  rintro (missing | ⟨wanted, blocked⟩)
  · exact missing (.inr looked)
  · exact told wanted blocked

end

-- How the expansion of a path can end: with just the files that it stands for, if it is followed.
inductive Expanding (tree : FileTree) (recursive : Bool) (path : Path) :
    Except Fault (List Path) → Prop
  | stopped {fault : Fault} (unreadable : Unreadable tree recursive path) :
    Expanding tree recursive path (.error fault)
  | expanded {files : List Path} (readable : ¬Unreadable tree recursive path)
      (exact : ∀ file, file ∈ files ↔ ∃ content, tree.Collects recursive path file content) :
    Expanding tree recursive path (.ok files)

theorem Expands.expanding {outcome : Except Fault (List Path)} {entries : List LogEntry}
    (expands : Expands tree recursive path.text outcome entries) (reads : path.ReadsBack) :
    Expanding tree recursive path outcome := by
  have same := reads.same
  cases expands with
  | missing missing =>
    rcases missing with null | ⟨nowhere, -⟩
    · exact absurd null reads.clear
    · exact .stopped (.inl (same ▸ nowhere))
  | hidden hidden =>
    rcases hidden.2 with barred | ⟨wanted, blocked⟩
    · exact .stopped (.inl fun reaches => reaches.not_barred (same ▸ barred))
    · exact .stopped (.inr ⟨wanted, same ▸ blocked⟩)
  | file _ found =>
    rw [same] at found ⊢
    refine .expanded (readable_file found) fun file => ?_
    rw [FileTree.collects_file found, List.mem_singleton]
  | skipped _ flat found =>
    rw [same] at found
    cases flat
    refine .expanded (readable_directory found nofun) fun file => ?_
    simp [FileTree.collects_flat found]
  | walked _ wanted located there told =>
    rw [same] at located told ⊢
    cases wanted
    have found := FileTree.lookup_located located there
    exact .expanded (readable_directory found fun _ => told)
      fun file => FileTree.collects_below located there

theorem expand_looks (reads : path.ReadsBack) (recursive : Bool) :
    Run.Looks (fun tree => Expanding tree recursive path) (expand recursive path.text) := by
  intro w
  obtain ⟨outcome, entries, ran, expands⟩ := expand_on recursive path.text w
  exact ⟨outcome, _, ran, expands.expanding reads⟩

-- The review of a file on its content; one that is no text has none.
def reviewBytes (file : Path) (content : Text.Bytes) : Option ReviewedFile :=
  match Text.decodeUtf8 content with
  | .error _ => none
  | .ok text => some (reviewContent file (Text.normalizeNewlines text))

-- How the review of a file with this content can end.
inductive Reading (tree : FileTree) (file : Path) (content : Text.Bytes) :
    Except Fault (Option ReviewedFile) → Prop
  | spoiled {fault : Fault} (spoils : Spoils tree file content) :
    Reading tree file content (.error fault)
  | read (fine : ¬Spoils tree file content) :
    Reading tree file content (.ok (reviewBytes file content))

theorem reviewPath_looks (file : Path) :
    Run.Looks (fun tree outcome => ∀ content, tree.lookup file = .ok (.file content) →
      Reading tree file content outcome) (reviewPath file) := by
  intro w
  unfold reviewPath
  rw [Run.on_bind, Run.on_get]
  dsimp only
  cases read : w.files.read file with
  | error cause => exact ⟨_, w.log, rfl, fun content _ => .spoiled (.inl ⟨cause, read⟩)⟩
  | ok bytes =>
    have given {content : Text.Bytes} (found : w.files.lookup file = .ok (.file content)) :
        bytes = content := by
      rcases FileTree.read_file found with held | denied
      · exact Except.ok.inj (read.symm.trans held)
      · cases read.symm.trans denied
    have opens (cause : FileError) : w.files.read file ≠ .error cause :=
      fun refused => nomatch read.symm.trans refused
    dsimp only
    cases decoded : Text.decodeUtf8 bytes with
    | error flaw =>
      refine ⟨_, w.log, rfl, fun content found => ?_⟩
      cases given found
      have fine : ¬Spoils w.files file bytes := by
        rintro (⟨cause, refused⟩ | ⟨-, text, same⟩)
        · exact opens cause refused
        · cases decoded.symm.trans same
      have reading := Reading.read fine
      unfold reviewBytes at reading
      rwa [decoded] at reading
    | ok text =>
      dsimp only
      cases named : file.whole.isText with
      | true =>
        refine ⟨_, w.log, rfl, fun content found => ?_⟩
        cases given found
        have fine : ¬Spoils w.files file bytes := by
          rintro (⟨cause, refused⟩ | ⟨unnamed, -⟩)
          · exact opens cause refused
          · cases named.symm.trans unnamed
        have reading := Reading.read fine
        unfold reviewBytes at reading
        rwa [decoded] at reading
      | false =>
        refine ⟨_, w.log, rfl, fun content found => ?_⟩
        cases given found
        exact .spoiled (.inr ⟨named, text, decoded⟩)

-- How a scan can end: with a review of just the files that its paths stand for and that are text,
-- if all of its paths are followed and no file that was collected ends it.
inductive Scanned (tree : FileTree) (recursive : Bool) (paths : List Path) :
    Except Fault ReviewSet → Prop
  | stopped {path : Path} {fault : Fault} (member : path ∈ paths)
      (unreadable : Unreadable tree recursive path) :
    Scanned tree recursive paths (.error fault)
  | spoiled {path file : Path} {content : Text.Bytes} {fault : Fault} (member : path ∈ paths)
      (collected : tree.Collects recursive path file content)
      (spoils : Spoils tree file content) :
    Scanned tree recursive paths (.error fault)
  | reviewed {review : ReviewSet} (readable : ∀ path ∈ paths, ¬Unreadable tree recursive path)
      (fine : ∀ path ∈ paths, ∀ file content, tree.Collects recursive path file content →
        ¬Spoils tree file content)
      (exact : ∀ e, e ∈ review.files ↔ ∃ path ∈ paths, ∃ file content,
        tree.Collects recursive path file content ∧ reviewBytes file content = some e) :
    Scanned tree recursive paths (.ok review)

section
variable {tree : FileTree} {lists : List (List Path)}
  (expanded : List.Forall₂ (fun path files => Expanding tree recursive path (.ok files))
    paths lists)
include expanded

theorem readable_expanded : ∀ path ∈ paths, ¬Unreadable tree recursive path := by
  intro path member
  obtain ⟨files, -, expanding⟩ := (forall₂_partners expanded).1 path member
  cases expanding with
  | expanded readable => exact readable

theorem mem_expanded (file : Path) : file ∈ lists.flatten ↔
    ∃ path ∈ paths, ∃ content, tree.Collects recursive path file content := by
  rw [List.mem_flatten]
  constructor
  · rintro ⟨files, among, member⟩
    obtain ⟨path, listed, expanding⟩ := (forall₂_partners expanded).2 files among
    cases expanding with
    | expanded _ exact => exact ⟨path, listed, (exact file).mp member⟩
  · rintro ⟨path, listed, collected⟩
    obtain ⟨files, among, expanding⟩ := (forall₂_partners expanded).1 path listed
    cases expanding with
    | expanded _ exact => exact ⟨files, among, (exact file).mpr collected⟩

theorem lookup_collected (formed : tree.WellFormed) (listed : path ∈ paths) {file : Path}
    {content : Text.Bytes} (collected : tree.Collects recursive path file content) :
    tree.lookup file = .ok (.file content) :=
  collected.lookup formed fun wanted blocked =>
    readable_expanded expanded path listed (.inr ⟨wanted, blocked⟩)

section
variable (formed : tree.WellFormed) {given : List (Option ReviewedFile)}
  (read : List.Forall₂ (fun file reviewed => ∀ content, tree.lookup file = .ok (.file content) →
    Reading tree file content (.ok reviewed)) lists.flatten given)
include formed read

theorem fine_reviewed (listed : path ∈ paths) {file : Path} {content : Text.Bytes}
    (collected : tree.Collects recursive path file content) : ¬Spoils tree file content := by
  have among := (mem_expanded expanded file).mpr ⟨path, listed, content, collected⟩
  obtain ⟨found, -, known⟩ := (forall₂_partners read).1 file among
  cases known content (lookup_collected expanded formed listed collected) with
  | read fine => exact fine

-- What is read of the files is just what was collected and is text.
theorem mem_reviewed (e : ReviewedFile) :
    e ∈ given.filterMap id ↔ ∃ path ∈ paths, ∃ file content,
      tree.Collects recursive path file content ∧ reviewBytes file content = some e := by
  rw [List.mem_filterMap]
  constructor
  · rintro ⟨found, member, same⟩
    obtain ⟨file, among, reviewed⟩ := (forall₂_partners read).2 found member
    obtain ⟨path, listed, content, collected⟩ := (mem_expanded expanded file).mp among
    cases reviewed content (lookup_collected expanded formed listed collected) with
    | read => exact ⟨path, listed, file, content, collected, same⟩
  · rintro ⟨path, listed, file, content, collected, reviewed⟩
    have among := (mem_expanded expanded file).mpr ⟨path, listed, content, collected⟩
    obtain ⟨found, member, known⟩ := (forall₂_partners read).1 file among
    cases known content (lookup_collected expanded formed listed collected) with
    | read => exact ⟨_, member, reviewed⟩

end

end

theorem reviewPaths_looks (reads : ∀ path ∈ paths, path.ReadsBack) (recursive : Bool) :
    Run.Looks (fun tree outcome => tree.WellFormed → Scanned tree recursive paths outcome)
      (reviewPaths (paths.map Path.text) recursive) := by
  intro w
  obtain ⟨outcome, entries, ran, expanding⟩ :=
    Run.Looks.mapM (fun path member => expand_looks (reads path member) recursive) w
  change (paths.mapM (expand recursive ∘ Path.text)).on w = _ at ran
  unfold reviewPaths expandAll
  rw [List.mapM_map, Run.on_bind, Run.on_map, ran]
  cases expanding with
  | stopped member ended =>
    refine ⟨_, entries, rfl, fun _ => ?_⟩
    cases ended with
    | stopped unreadable => exact .stopped member unreadable
  | @all lists expanded =>
    obtain ⟨read, later, ranRead, reading⟩ := Run.Looks.mapM
      (fun file (_ : file ∈ lists.flatten) => reviewPath_looks file) { w with log := entries }
    dsimp only [Except.map]
    rw [Run.on_bind, ranRead]
    cases reading with
    | @stopped file fault member ended =>
      refine ⟨_, later, rfl, fun formed => ?_⟩
      obtain ⟨path, listed, content, collected⟩ := (mem_expanded expanded file).mp member
      cases ended content (lookup_collected expanded formed listed collected) with
      | spoiled spoils => exact .spoiled listed collected spoils
    | @all given matched =>
      obtain ⟨review, last, summed, files, -⟩ :=
        Reviewing.sumUp_on (given.filterMap id) .fileScan none { w with log := later }
      refine ⟨.ok review, last, summed, fun formed => ?_⟩
      refine .reviewed (readable_expanded expanded) (fun path listed file content collected => ?_)
        fun e => ?_
      · exact fine_reviewed expanded formed matched listed collected
      · rw [files, mem_reviewed expanded formed matched]

end FileScan
end PatchReview
