import Mathlib.Data.List.Nodup
import Mathlib.Data.Nat.Basic
import Mathlib.Order.Basic
import PatchReview.Proofs.FileScan.Expanding

-- What the paths of a scan stand for, in order.  They are followed one after another, up to the
-- first that leads nowhere or is hidden; what is below a directory, as far as its directories may
-- be read, is listed completely, each file once.
namespace PatchReview

namespace NamePart

-- No character is a surrogate.
theorem value_injective : Function.Injective value := by
  intro a b same
  cases a with
  | char c =>
    cases b with
    | char d => exact congrArg char (Char.ext (UInt32.toNat_inj.mp same))
    | byte low =>
      have apart := c.valid
      simp only [value, Char.toNat, UInt32.isValidChar, Nat.isValidChar] at same apart
      omega
  | byte low =>
    cases b with
    | char d =>
      have apart := d.valid
      simp only [value, Char.toNat, UInt32.isValidChar, Nat.isValidChar] at same apart
      omega
    | byte other => exact congrArg byte (Fin.ext (Nat.add_left_cancel same))

instance : LinearOrder NamePart := LinearOrder.lift' value value_injective

end NamePart

namespace FileTree

variable {tree : FileTree} {one other : Place}

-- No place is taken twice.
def Distinct (tree : FileTree) : Prop := (tree.files.map (·.1)).Nodup

instance (tree : FileTree) : Decidable tree.Distinct := inferInstanceAs (Decidable (List.Nodup _))

theorem comesBefore_iff : comesBefore one other = true ↔ ¬other < one := by
  have inner : (fun a b : Name => a.lex b (fun c d => decide (c < d)) = true) = (· < ·) := by
    funext a b
    exact propext List.lex_eq_true_iff_lt
  unfold comesBefore
  rw [Bool.not_eq_true', List.lex_eq_false_iff_not_lex, inner]
  exact Iff.rfl

theorem below_nodup (distinct : tree.Distinct) (place : Place) : (tree.below place).Nodup := by
  unfold below
  rw [(List.mergeSort_perm _ _).nodup_iff]
  refine (List.Nodup.map_on ?_ (distinct.filter _)).filter _
  intro one among other amongToo same
  obtain ⟨names, rfl, -⟩ := Place.isAbove_iff.mp (List.mem_filter.mp among).2
  obtain ⟨others, rfl, -⟩ := Place.isAbove_iff.mp (List.mem_filter.mp amongToo).2
  rw [List.drop_left, List.drop_left] at same
  rw [same]

-- Names are compared as wholes, so what is below `a` comes before `a-b`.
theorem below_increasing (distinct : tree.Distinct) (place : Place) :
    (tree.below place).Pairwise (· < ·) := by
  have sorted : (tree.below place).Pairwise fun a b => ¬b < a := by
    refine (List.pairwise_mergeSort ?_ ?_ _).imp comesBefore_iff.mp
    · intro a b c first second
      rw [comesBefore_iff, List.not_lt] at first second ⊢
      exact List.le_trans first second
    · intro a b
      rw [Bool.or_eq_true, comesBefore_iff, comesBefore_iff, List.not_lt, List.not_lt]
      exact List.le_total a b
  refine sorted.imp₂ ?_ (below_nodup distinct place)
  intro a b before distinct
  exact (List.le_iff_lt_or_eq.mp (List.not_lt.mp before)).resolve_right distinct

end FileTree

namespace FileScan

variable {tree : FileTree} {recursive : Bool} {given : Text} {path : Path}

-- The files that a path stands for, in order, and what is logged about it.
inductive Lists (tree : FileTree) (recursive : Bool) (path : Path) :
    List Path → List LogEntry → Prop
  | file {content : Text.Bytes} (found : tree.lookup path = .ok (.file content)) :
    Lists tree recursive path [path] []
  | skipped (flat : recursive = false) (found : tree.lookup path = .ok .directory) :
    Lists tree recursive path [] [skipping path]
  | walked {files : List Path} (wanted : recursive = true)
      (found : tree.lookup path = .ok .directory)
      (complete : ∀ file, file ∈ files ↔ ∃ content, tree.Collects true path file content)
      (increasing : files.Pairwise fun one other => one.names < other.names) :
    Lists tree recursive path files []

-- How the expansion of several texts ends, one after another.  The first that fails ends it.
inductive ExpandsAll (tree : FileTree) (recursive : Bool) :
    List Text → Except Fault (List (List Path)) → List LogEntry → Prop
  | done : ExpandsAll tree recursive [] (.ok []) []
  | stopped {given : Text} {fault : Fault} {entries : List LogEntry} (rest : List Text)
      (ends : Expands tree recursive given (.error fault) entries) :
    ExpandsAll tree recursive (given :: rest) (.error fault) entries
  | onward {given : Text} {rest : List Text} {files : List Path} {said entries : List LogEntry}
      {outcome : Except Fault (List (List Path))}
      (first : Expands tree recursive given (.ok files) said)
      (later : ExpandsAll tree recursive rest outcome entries) :
    ExpandsAll tree recursive (given :: rest) (outcome.map (files :: ·)) (said ++ entries)

-- Texts of one kind are among them, and none of the other kind before the first.
def ComesFirst (kind other : Text → Prop) (paths : List Text) : Prop :=
  ∃ before given rest, paths = before ++ given :: rest ∧ kind given ∧
    ∀ earlier ∈ before, ¬other earlier

theorem comesFirst_nil {kind other : Text → Prop} : ¬ComesFirst kind other [] := by
  intro comes
  obtain ⟨before, given, rest, split, -⟩ := comes
  cases before <;> cases split

theorem comesFirst_cons {kind other : Text → Prop} {rest : List Text} :
    ComesFirst kind other (given :: rest) ↔
      kind given ∨ ¬other given ∧ ComesFirst kind other rest := by
  constructor
  · intro comes
    obtain ⟨before, found, after, split, isKind, noOther⟩ := comes
    cases before with
    | nil =>
      cases split
      exact .inl isKind
    | cons first before =>
      cases split
      obtain ⟨notFirst, later⟩ := List.forall_mem_cons.mp noOther
      exact .inr ⟨notFirst, before, found, after, rfl, isKind, later⟩
  · intro first
    rcases first with isKind | ⟨notOther, before, found, after, rfl, isKind, noOther⟩
    · exact ⟨[], given, rest, rfl, isKind, nofun⟩
    · refine ⟨given :: before, found, after, rfl, isKind, ?_⟩
      exact List.forall_mem_cons.mpr ⟨notOther, noOther⟩

theorem comesFirst_single {kind other : Text → Prop} :
    ComesFirst kind other [given] ↔ kind given := by
  rw [comesFirst_cons, or_iff_left fun later => comesFirst_nil later.2]

theorem Expands.lists {files : List Path} {entries : List LogEntry} (distinct : tree.Distinct)
    (expands : Expands tree recursive given (.ok files) entries) :
    Lists tree recursive (.ofText given) files entries := by
  cases expands with
  | file _ found => exact .file found
  | skipped _ flat found => exact .skipped flat found
  | walked _ wanted located there =>
    refine .walked wanted (FileTree.lookup_located located there) (fun file => ?_) ?_
    · exact FileTree.collects_below located there
    · rw [List.pairwise_map]
      exact (FileTree.below_increasing distinct _).imp List.append_left_lt

theorem mapM_on (paths : List Text) (recursive : Bool) (w : World) :
    ∃ outcome entries, (paths.mapM (expand recursive)).on w =
        (outcome, { w with log := w.log ++ entries }) ∧
      ExpandsAll w.files recursive paths outcome entries := by
  induction paths generalizing w with
  | nil => exact ⟨.ok [], [], by rw [List.append_nil]; rfl, .done⟩
  | cons given rest ih =>
    obtain ⟨outcome, said, ran, expands⟩ := expand_on recursive given w
    rw [List.mapM_cons, Run.on_bind, ran]
    cases outcome with
    | error fault => exact ⟨_, said, rfl, .stopped rest expands⟩
    | ok files =>
      obtain ⟨later, entries, ranRest, expandsRest⟩ := ih { w with log := w.log ++ said }
      refine ⟨_, said ++ entries, ?_, .onward expands expandsRest⟩
      dsimp only
      rw [Run.on_bind, ranRest, ← List.append_assoc]
      cases later <;> rfl

section
variable {paths : List Text} {outcome : Except Fault (List (List Path))}
  {entries : List LogEntry}

-- Which kind of fault ends an expansion is decided by the text that comes first.
theorem ExpandsAll.stops_iff {P : Fault → Prop} {kind other : Text → Prop}
    (all : ExpandsAll tree recursive paths outcome entries)
    (stops : ∀ given fault said, Expands tree recursive given (.error fault) said →
      P fault ∧ kind given ∨ ¬P fault ∧ ¬kind given ∧ other given)
    (follows : ∀ given files said, Expands tree recursive given (.ok files) said →
      ¬kind given ∧ ¬other given) :
    (∃ fault, outcome = .error fault ∧ P fault) ↔ ComesFirst kind other paths := by
  induction all with
  | done => exact ⟨nofun, fun comes => absurd comes comesFirst_nil⟩
  | @stopped given fault said rest ends =>
    rw [comesFirst_cons]
    rcases stops given fault said ends with ⟨fits, isKind⟩ | ⟨unfit, notKind, isOther⟩
    · exact ⟨fun _ => .inl isKind, fun _ => ⟨fault, rfl, fits⟩⟩
    · constructor
      · intro stopped
        obtain ⟨_, same, fits⟩ := stopped
        cases same
        exact absurd fits unfit
      · intro first
        rcases first with isKind | ⟨notOther, -⟩
        · exact absurd isKind notKind
        · exact absurd isOther notOther
  | @onward given rest files said entries outcome first later ih =>
    obtain ⟨notKind, notOther⟩ := follows given files said first
    rw [comesFirst_cons, or_iff_right notKind, and_iff_right notOther, ← ih]
    cases outcome with
    | error fault => exact Iff.rfl
    | ok lists => exact ⟨nofun, nofun⟩

theorem ExpandsAll.refused_iff (all : ExpandsAll tree recursive paths outcome entries) :
    (∃ fault, outcome = .error fault ∧ fault.isValueFault = true) ↔
      ComesFirst (Missing tree) (Hidden tree recursive) paths := by
  refine all.stops_iff (fun given fault said ends => ?_) fun _ _ _ expands => expands.followed
  cases ends with
  | missing missing => exact .inl ⟨rfl, missing⟩
  | hidden hidden => exact .inr ⟨nofun, hidden.not_missing, hidden⟩

theorem ExpandsAll.hidden_iff (all : ExpandsAll tree recursive paths outcome entries) :
    (∃ fault, outcome = .error fault ∧ ∃ cause, fault = .file cause) ↔
      ComesFirst (Hidden tree recursive) (Missing tree) paths := by
  refine all.stops_iff (fun given fault said ends => ?_) fun _ _ _ expands => expands.followed.symm
  cases ends with
  | missing missing => exact .inr ⟨nofun, fun hidden => hidden.not_missing missing, missing⟩
  | hidden hidden => exact .inl ⟨⟨_, rfl⟩, hidden⟩

theorem ExpandsAll.ends (all : ExpandsAll tree recursive paths outcome entries)
    (distinct : tree.Distinct) :
    (∃ fault, outcome = .error fault ∧
      (fault.isValueFault = true ∨ ∃ cause, fault = .file cause)) ∨
    ∃ parts : List (List Path × List LogEntry),
      List.Forall₂ (fun given part => Lists tree recursive (.ofText given) part.1 part.2)
        paths parts ∧
      outcome = .ok (parts.map (·.1)) ∧ entries = (parts.map (·.2)).flatten := by
  induction all with
  | done => exact .inr ⟨[], .nil, rfl, rfl⟩
  | stopped rest ends =>
    cases ends with
    | missing => exact .inl ⟨_, rfl, .inl rfl⟩
    | hidden => exact .inl ⟨_, rfl, .inr ⟨_, rfl⟩⟩
  | @onward given rest files said entries outcome first later ih =>
    rcases ih with ⟨fault, rfl, kind⟩ | ⟨parts, matched, rfl, rfl⟩
    · exact .inl ⟨fault, rfl, kind⟩
    · exact .inr ⟨(files, said) :: parts, .cons (first.lists distinct) matched, rfl, rfl⟩

end

-- Two neighbours of which one is a directory: as texts, their paths stand the other way round.
def neighbours : World where
  files := { files := [(["d", "a-b"], []), (["d", "a", "x"], [])] }
  host := { pull number := { number := .int number }, files := [], commits := [], reviewId := 1
            failures _ := none }

-- What is in a directory that may not be read is left out, and nothing is said about it.
example : ((expandAll ["d"] true).on { neighbours with
    files := { neighbours.files with unreadable := [["d", "a"]] } }).1.toOption =
      some [.ofText "d/a-b"] := by decide +kernel

-- What is listed in one that may not be searched cannot be looked up.
example : ((expandAll ["d"] true).on { neighbours with
    files := { neighbours.files with unsearchable := [["d", "a"]] } }).1.isOk = false := by
  decide +kernel

end FileScan
end PatchReview
