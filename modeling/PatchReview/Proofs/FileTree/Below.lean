import Mathlib.Data.List.Basic
import PatchReview.FileTree

-- What lies below a directory.  In a tree that a file system could hold, every file below a
-- directory is reached from it, one name after another.
namespace PatchReview

namespace Place

variable {place below : Place} {names : List Name} {name : Name}

theorem isAbove_iff : isAbove place below = true ↔
    ∃ names, below = place ++ names ∧ leadsDown names = true := by
  unfold isAbove
  rw [Bool.and_eq_true, List.isPrefixOf_iff_prefix]
  constructor
  · rintro ⟨⟨names, rfl⟩, leads⟩
    exact ⟨names, rfl, by simpa using leads⟩
  · rintro ⟨names, rfl, leads⟩
    exact ⟨List.prefix_append place names, by simpa using leads⟩

-- Steps upward are the first of a place, a root is the first, and no name is too long.
structure IsProper (place : Place) : Prop where
  upFirst : up ∉ place.dropWhile (· = up)
  rootFirst : ("/" : Name) ∉ place.tail
  short : ∀ name ∈ place, name.byteLength ≤ FileTree.nameLimit

instance (place : Place) : Decidable (IsProper place) :=
  decidable_of_iff ((∀ name ∈ place.dropWhile (· = up), ¬up = name) ∧
      (∀ name ∈ place.tail, ¬("/" : Name) = name) ∧
      ∀ name ∈ place, name.byteLength ≤ FileTree.nameLimit)
    ⟨fun ⟨upFirst, rootFirst, short⟩ =>
        ⟨List.forall_mem_ne.mp upFirst, List.forall_mem_ne.mp rootFirst, short⟩,
      fun proper => ⟨List.forall_mem_ne.mpr proper.upFirst,
        List.forall_mem_ne.mpr proper.rootFirst, proper.short⟩⟩

theorem leadsDown_cons_iff {rest : List Name} :
    leadsDown (name :: rest) = true ↔ name ≠ up ∧ [name] ≠ root := by
  unfold leadsDown
  rw [Bool.and_eq_true, decide_eq_true_eq, decide_eq_true_eq]

theorem up_not_mem {rest : List Name} (first : name ≠ up)
    (upFirst : up ∉ (place ++ name :: rest).dropWhile (· = up)) : up ∉ name :: rest := by
  induction place with
  | nil => simpa [List.dropWhile, first] using upFirst
  | cons step place ih =>
    by_cases upward : step = up
    · exact ih (by simpa [List.dropWhile, upward] using upFirst)
    · intro member
      apply upFirst
      rw [List.cons_append, List.dropWhile_cons_of_neg (by simpa using upward)]
      exact List.mem_cons_of_mem _ (List.mem_append_right _ member)

-- Names that lead down go on to do so.
theorem IsProper.plain (proper : IsProper (place ++ names)) (leads : leadsDown names = true) :
    ∀ name ∈ names, name ≠ up ∧ [name] ≠ root := by
  cases names with
  | nil => exact nofun
  | cons first rest =>
    obtain ⟨notUp, notRoot⟩ := leadsDown_cons_iff.mp leads
    have upward := up_not_mem notUp proper.upFirst
    have rooted : ("/" : Name) ∉ rest := by
      intro member
      apply proper.rootFirst
      cases place with
      | nil => exact member
      | cons step place => exact List.mem_append_right _ (List.mem_cons_of_mem _ member)
    intro name member
    refine ⟨fun same => upward (same ▸ member), fun same => ?_⟩
    cases List.mem_cons.mp member with
    | inl here => exact notRoot (here ▸ same)
    | inr later => exact rooted ((List.cons.inj same).1 ▸ later)

theorem enter_plain (plain : name ≠ up ∧ [name] ≠ root) : enter place name = place ++ [name] :=
  if_pos plain.1

theorem mem_steps (given : names ≠ []) : names ∈ steps names := by
  induction names with
  | nil => exact absurd rfl given
  | cons name rest ih =>
    cases rest with
    | nil => exact List.mem_cons_self
    | cons next more =>
      exact List.mem_cons_of_mem _ (List.mem_map_of_mem (ih (List.cons_ne_nil _ _)))

end Place

namespace FileTree

open Place (leadsDown isAbove)

-- What a file system can hold: nothing lies below a file, and nothing below the sink.
structure WellFormed (tree : FileTree) : Prop where
  proper : ∀ entry ∈ tree.files, Place.IsProper entry.1
  apart : ∀ entry ∈ tree.files, ∀ other ∈ tree.files, isAbove other.1 entry.1 = false
  sealed : ∀ entry ∈ tree.files, isAbove sink entry.1 = false

instance (tree : FileTree) : Decidable tree.WellFormed :=
  decidable_of_iff ((∀ entry ∈ tree.files, Place.IsProper entry.1) ∧
      (∀ entry ∈ tree.files, ∀ other ∈ tree.files, isAbove other.1 entry.1 = false) ∧
      ∀ entry ∈ tree.files, isAbove sink entry.1 = false)
    ⟨fun ⟨proper, apart, sealed⟩ => ⟨proper, apart, sealed⟩,
      fun formed => ⟨formed.proper, formed.apart, formed.sealed⟩⟩

variable {tree : FileTree} {place : Place} {names : List Name} {path : Path}

theorem exists_of_contentAt? {content : Text.Bytes} (found : tree.contentAt? place = some content) :
    ∃ entry ∈ tree.files, entry.1 = place := by
  unfold contentAt? at found
  obtain ⟨entry, first, -⟩ := Option.map_eq_some_iff.mp found
  exact ⟨entry, List.mem_of_find?_eq_some first, by simpa using List.find?_some first⟩

theorem exists_contentAt? {entry : Place × Text.Bytes} (member : entry ∈ tree.files) :
    ∃ content, tree.contentAt? entry.1 = some content := by
  unfold contentAt?
  cases found : tree.files.find? fun other => other.1 = entry.1 with
  | none => exact absurd (List.find?_eq_none.mp found entry member) (by simp)
  | some other => exact ⟨other.2, rfl⟩

-- Whatever stands above a file is a directory.
theorem nodeAt?_above (formed : tree.WellFormed) {entry : Place × Text.Bytes}
    (member : entry ∈ tree.files) (above : isAbove place entry.1 = true) :
    tree.nodeAt? place = some .directory := by
  have noFile : tree.contentAt? place = none := by
    cases found : tree.contentAt? place with
    | none => rfl
    | some content =>
      obtain ⟨other, among, rfl⟩ := exists_of_contentAt? found
      rw [formed.apart entry member other among] at above
      cases above
  have noSink : place ≠ sink := by
    rintro rfl
    rw [formed.sealed entry member] at above
    cases above
  have directory : tree.isDirectory place = true := by
    unfold isDirectory
    have any : tree.files.any (fun entry => isAbove place entry.1) = true :=
      List.any_eq_true.mpr ⟨entry, member, above⟩
    simp [any]
  unfold nodeAt?
  rw [noFile]
  dsimp only
  rw [if_neg noSink, if_pos directory]

theorem walk_append (place : Place) (first second : List Name) :
    tree.walk place (first ++ second) =
      (tree.walk place first).bind fun there => tree.walk there second := by
  induction first generalizing place with
  | nil => rfl
  | cons name rest ih =>
    rw [List.cons_append, walk, walk]
    split
    · split
      · rfl
      · split
        · rfl
        · exact ih _
    · rfl
    · rfl

-- Every step on the way to a file is a directory, so nothing but its permissions is in the way.
theorem walk_down (formed : tree.WellFormed) {entry : Place × Text.Bytes}
    (member : entry ∈ tree.files) (reaches : entry.1 = place ++ names)
    (plain : ∀ name ∈ names, name ≠ Place.up ∧ [name] ≠ Place.root) :
    tree.walk place names = .ok (place ++ names) ∨ tree.walk place names = .error .denied := by
  induction names generalizing place with
  | nil =>
    rw [List.append_nil]
    exact .inl rfl
  | cons name rest ih =>
    obtain ⟨first, later⟩ := List.forall_mem_cons.mp plain
    have above : isAbove place entry.1 = true :=
      Place.isAbove_iff.mpr ⟨name :: rest, reaches, Place.leadsDown_cons_iff.mpr first⟩
    have short : name.byteLength ≤ nameLimit :=
      (formed.proper entry member).short name (by simp [reaches])
    unfold walk
    rw [nodeAt?_above formed member above]
    dsimp only
    split
    · exact .inr rfl
    · rw [if_neg (Nat.not_lt.mpr short), Place.enter_plain first,
        List.append_cons place name rest]
      exact ih (reaches.trans (List.append_cons place name rest)) later

theorem mem_below : names ∈ tree.below place ↔
    (∃ entry ∈ tree.files, entry.1 = place ++ names ∧ leadsDown names = true) ∧
      tree.isListed place names = true := by
  unfold below
  rw [List.mem_mergeSort, List.mem_filter, List.mem_map]
  refine and_congr_left fun _ => ⟨?_, ?_⟩
  · rintro ⟨whole, kept, rfl⟩
    obtain ⟨listed, above⟩ := List.mem_filter.mp kept
    obtain ⟨entry, member, rfl⟩ := List.mem_map.mp listed
    obtain ⟨names, reaches, leads⟩ := Place.isAbove_iff.mp above
    refine ⟨entry, member, ?_⟩
    rw [reaches, List.drop_left]
    exact ⟨rfl, leads⟩
  · rintro ⟨entry, member, reaches, leads⟩
    refine ⟨entry.1, List.mem_filter.mpr ⟨List.mem_map_of_mem member, ?_⟩, ?_⟩
    · exact Place.isAbove_iff.mpr ⟨names, reaches, leads⟩
    · rw [reaches, List.drop_left]

theorem mem_entriesBelow (member : names ∈ tree.below place) : names ∈ tree.entriesBelow place := by
  obtain ⟨⟨entry, listed, reaches, leads⟩, shown⟩ := mem_below.mp member
  refine List.mem_filter.mpr
    ⟨List.mem_flatMap.mpr ⟨entry.1, List.mem_filter.mpr ⟨?_, ?_⟩, ?_⟩, shown⟩
  · exact List.mem_append_left _ (List.mem_map_of_mem listed)
  · exact Place.isAbove_iff.mpr ⟨names, reaches, leads⟩
  · rw [reaches, List.drop_left]
    apply Place.mem_steps
    rintro rfl
    cases leads

-- What stands there is not told: the path is too long, or a directory on the way may not be
-- searched.
def Barred (tree : FileTree) (path : Path) : Prop :=
  tree.lookup path = .error .nameTooLong ∨ tree.lookup path = .error .denied

theorem barred_of_locate (refused : tree.locate path = .error .nameTooLong ∨
    tree.locate path = .error .denied) : tree.Barred path := by
  unfold Barred lookup
  rcases refused with long | denied
  · rw [long]
    exact .inl rfl
  · rw [denied]
    exact .inr rfl

theorem refusal?_eq_some {cause : FileError} (refused : tree.refusal? path = some cause) :
    tree.Barred path := by
  unfold refusal? ask at refused
  unfold Barred
  cases looked : tree.lookup path with
  | ok node =>
    rw [looked] at refused
    cases refused
  | error fault =>
    rw [looked] at refused
    cases fault with
    | nameTooLong => exact .inl rfl
    | denied => exact .inr rfl
    | notFound | notDirectory | isDirectory => cases refused

theorem refusal?_eq_none (answered : tree.refusal? path = none) : ¬tree.Barred path := by
  unfold refusal? ask at answered
  rintro (looked | looked)
  · rw [looked] at answered
    cases answered
  · rw [looked] at answered
    cases answered

theorem not_barred {node : Node} (found : tree.lookup path = .ok node) : ¬tree.Barred path := by
  rintro (long | denied)
  · cases found.symm.trans long
  · cases found.symm.trans denied

-- A longer path goes on from where the shorter one leads.
theorem locate_extend (found : tree.locate path = .ok place) (given : names ≠ []) :
    tree.locate (path.extend names) =
      if pathLimit < (path.extend names).whole.byteLength then .error .nameTooLong
      else tree.walk place names := by
  have start : tree.walk (if path.root.isEmpty then [] else Place.root) path.names = .ok place := by
    unfold locate at found
    split at found
    · cases found
    · split at found
      · cases found
      · exact found
  have longer : (path.extend names).names.isEmpty = false := by
    rw [List.isEmpty_eq_false_iff]
    exact List.append_ne_nil_of_right_ne_nil _ given
  unfold locate
  rw [longer]
  change ite _ _ (ite _ _ (tree.walk (if path.root.isEmpty then [] else Place.root)
    (path.names ++ names))) = _
  rw [walk_append, start]
  congr 1
  exact if_neg fun denied => Bool.false_ne_true denied.2.1

-- From a directory that a path leads to, a longer path leads to each file below it, if it is not
-- barred.
theorem lookup_below (formed : tree.WellFormed) (found : tree.locate path = .ok place)
    (member : names ∈ tree.below place) (clear : ¬tree.Barred (path.extend names)) :
    ∃ content, tree.lookup (path.extend names) = .ok (.file content) ∧
      tree.contentAt? (place ++ names) = some content := by
  obtain ⟨⟨entry, listed, reaches, leads⟩, -⟩ := mem_below.mp member
  obtain ⟨content, held⟩ := exists_contentAt? listed
  rw [reaches] at held
  refine ⟨content, ?_, held⟩
  have plain := ((reaches ▸ formed.proper entry listed : Place.IsProper _)).plain leads
  have given : names ≠ [] := by
    rintro rfl
    cases leads
  have located : tree.locate (path.extend names) = .ok (place ++ names) := by
    have onward := locate_extend found given
    split at onward
    · exact absurd (barred_of_locate (.inl onward)) clear
    · rcases walk_down formed listed reaches plain with led | denied
      · exact onward.trans led
      · exact absurd (barred_of_locate (.inr (onward.trans denied))) clear
  unfold lookup nodeAt?
  rw [located]
  dsimp only
  rw [held]

-- A file or a directory is there; anything else, as a sink, is not what a path is to lead to.
def Reaches (tree : FileTree) (path : Path) : Prop :=
  (∃ content, tree.lookup path = .ok (.file content)) ∨ tree.lookup path = .ok .directory

theorem not_reaches (nothing : ∀ node, tree.lookup path = .ok node → node = .sink) :
    ¬tree.Reaches path := by
  intro reaches
  rcases reaches with ⟨content, found⟩ | found
  · cases nothing _ found
  · cases nothing _ found

theorem Reaches.not_barred (reaches : tree.Reaches path) : ¬tree.Barred path := by
  rcases reaches with ⟨content, found⟩ | found
  · exact FileTree.not_barred found
  · exact FileTree.not_barred found

-- Something that is listed in a directory, at any depth, is barred.
def Blocked (tree : FileTree) (path : Path) : Prop :=
  ∃ place, tree.locate path = .ok place ∧ tree.nodeAt? place = some .directory ∧
    ∃ names ∈ tree.entriesBelow place, tree.Barred (path.extend names)

-- The files that a path stands for and what they hold: the file itself, or all that are listed
-- below a directory.
inductive Collects (tree : FileTree) (recursive : Bool) (path : Path) : Path → Text.Bytes → Prop
  | itself {content : Text.Bytes} (found : tree.lookup path = .ok (.file content)) :
    Collects tree recursive path path content
  | inside {place : Place} {names : List Name} {content : Text.Bytes} (wanted : recursive = true)
      (found : tree.locate path = .ok place) (directory : tree.nodeAt? place = some .directory)
      (leads : leadsDown names = true) (listed : tree.isListed place names = true)
      (held : tree.contentAt? (place ++ names) = some content) :
    Collects tree recursive path (path.extend names) content

theorem lookup_directory (found : tree.lookup path = .ok .directory) :
    ∃ place, tree.locate path = .ok place ∧ tree.nodeAt? place = some .directory := by
  unfold lookup at found
  split at found
  · cases found
  · rename_i place located
    refine ⟨place, located, ?_⟩
    split at found
    · rename_i node there
      rw [there, Except.ok.inj found]
    · cases found

theorem lookup_located {node : Node} (located : tree.locate path = .ok place)
    (there : tree.nodeAt? place = some node) : tree.lookup path = .ok node := by
  unfold lookup
  rw [located]
  dsimp only
  rw [there]

theorem lookup_file {content : Text.Bytes} (found : tree.lookup path = .ok (.file content)) :
    ∃ place, tree.locate path = .ok place ∧ tree.nodeAt? place = some (.file content) := by
  unfold lookup at found
  split at found
  · cases found
  · rename_i place located
    refine ⟨place, located, ?_⟩
    split at found
    · rename_i node there
      rw [there, Except.ok.inj found]
    · cases found

-- A file that is there is read, or it may not be read.
theorem read_file {content : Text.Bytes} (found : tree.lookup path = .ok (.file content)) :
    tree.read path = .ok content ∨ tree.read path = .error ⟨.denied, path.whole⟩ := by
  obtain ⟨place, located, there⟩ := lookup_file found
  unfold read
  rw [located]
  dsimp only
  rw [there]
  dsimp only
  split
  · exact .inr rfl
  · exact .inl rfl

theorem Blocked.lookup (blocked : tree.Blocked path) : tree.lookup path = .ok .directory := by
  obtain ⟨place, located, there, -⟩ := blocked
  exact lookup_located located there

theorem collects_file {recursive : Bool} {content : Text.Bytes}
    (found : tree.lookup path = .ok (.file content)) (file : Path) :
    (∃ other, tree.Collects recursive path file other) ↔ file = path := by
  constructor
  · rintro ⟨other, collected⟩
    cases collected with
    | itself => rfl
    | inside _ located there => cases found.symm.trans (lookup_located located there)
  · rintro rfl
    exact ⟨content, .itself found⟩

theorem collects_flat (found : tree.lookup path = .ok .directory) {file : Path}
    {content : Text.Bytes} : ¬tree.Collects false path file content := by
  intro collected
  cases collected with
  | itself other => cases found.symm.trans other
  | inside wanted => cases wanted

-- A file that was collected is there to be read.
theorem Collects.lookup {recursive : Bool} {file : Path} {content : Text.Bytes}
    (collected : tree.Collects recursive path file content) (formed : tree.WellFormed)
    (inReach : recursive = true → ¬tree.Blocked path) :
    tree.lookup file = .ok (.file content) := by
  cases collected with
  | itself found => exact found
  | @inside place names _ wanted found directory leads listed held =>
    obtain ⟨entry, among, reaches⟩ := exists_of_contentAt? held
    have member := mem_below.mpr ⟨⟨entry, among, reaches, leads⟩, listed⟩
    have clear : ¬tree.Barred (path.extend names) := fun barred =>
      inReach wanted ⟨place, found, directory, names, mem_entriesBelow member, barred⟩
    obtain ⟨other, looked, same⟩ := lookup_below formed found member clear
    cases held.symm.trans same
    exact looked

-- What a walk below a directory comes to.
theorem filesUnder_spec (located : tree.locate path = .ok place)
    (directory : tree.nodeAt? place = some .directory) :
    (∃ cause, tree.filesUnder path = .error cause ∧ tree.Blocked path) ∨
      ¬tree.Blocked path ∧
        tree.filesUnder path = .ok ((tree.below place).map path.extend) := by
  unfold filesUnder
  rw [located]
  dsimp only
  cases asked : ((tree.entriesBelow place).map path.extend).findSome? tree.refusal? with
  | some cause =>
    obtain ⟨entry, among, refused⟩ := List.exists_of_findSome?_eq_some asked
    obtain ⟨names, member, rfl⟩ := List.mem_map.mp among
    exact .inl ⟨_, rfl, place, located, directory, names, member, refusal?_eq_some refused⟩
  | none =>
    refine .inr ⟨?_, rfl⟩
    rintro ⟨other, same, -, names, member, barred⟩
    cases located.symm.trans same
    have answered := List.findSome?_eq_none_iff.mp asked _ (List.mem_map_of_mem member)
    exact refusal?_eq_none answered barred

theorem collects_below {file : Path} (located : tree.locate path = .ok place)
    (directory : tree.nodeAt? place = some .directory) :
    file ∈ (tree.below place).map path.extend ↔
      ∃ content, tree.Collects true path file content := by
  constructor
  · intro member
    obtain ⟨names, among, rfl⟩ := List.mem_map.mp member
    obtain ⟨⟨entry, held, reaches, leads⟩, listed⟩ := mem_below.mp among
    obtain ⟨content, found⟩ := exists_contentAt? held
    exact ⟨content, .inside rfl located directory leads listed (reaches ▸ found)⟩
  · rintro ⟨content, collected⟩
    cases collected with
    | itself found => cases (lookup_located located directory).symm.trans found
    | inside _ found _ leads listed held =>
      cases located.symm.trans found
      obtain ⟨entry, among, reaches⟩ := exists_of_contentAt? held
      exact List.mem_map_of_mem (mem_below.mpr ⟨⟨entry, among, reaches, leads⟩, listed⟩)

end FileTree
end PatchReview
