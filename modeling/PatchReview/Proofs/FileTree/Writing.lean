import PatchReview.Proofs.FileTree.Below

-- What writing changes.  A path leads through directories only, so all that is above the place
-- where it ends was a directory before; a file that is written there changes what is at this place,
-- and nothing anywhere else.
namespace PatchReview

namespace Place

variable {place other : Place} {name : Name}

theorem leadsDown_append {names : List Name} (given : names ≠ []) (more : List Name) :
    leadsDown (names ++ more) = leadsDown names := by
  obtain ⟨name, rest, rfl⟩ := List.exists_cons_of_ne_nil given
  rfl

-- One step on, nothing new is above but the place that the step was made from.
theorem isAbove_enter (above : isAbove other (place.enter name) = true) :
    other = place ∨ isAbove other place = true := by
  obtain ⟨names, reaches, leads⟩ := isAbove_iff.mp above
  have given : names ≠ [] := by
    rintro rfl
    cases leads
  unfold enter at reaches
  split at reaches
  · obtain ⟨front, last, rfl⟩ := List.eq_nil_or_concat names |>.resolve_left given
    rw [List.concat_eq_append, ← List.append_assoc] at reaches
    obtain ⟨same, -⟩ := List.append_inj' reaches rfl
    by_cases whole : front = []
    · rw [whole, List.append_nil] at same
      exact .inl same.symm
    · rw [List.concat_eq_append, leadsDown_append whole] at leads
      exact .inr (isAbove_iff.mpr ⟨front, same, leads⟩)
  split at reaches
  · rename_i top
    exact .inr (isAbove_iff.mpr ⟨names, top.trans reaches, leads⟩)
  split at reaches
  · rename_i upward
    -- Only steps upward have been made, and none of them leads down.
    obtain ⟨first, rest, rfl⟩ := List.exists_cons_of_ne_nil given
    have member : first ∈ place ++ [up] := reaches ▸ List.mem_append_right _ List.mem_cons_self
    have isUp : first = up := by
      rcases List.mem_append.mp member with inside | last
      · simpa using List.all_eq_true.mp upward first inside
      · exact List.mem_singleton.mp last
    exact absurd isUp (leadsDown_cons_iff.mp leads).1
  · rename_i mixed
    have some_step : place ≠ [] := by
      rintro rfl
      exact mixed rfl
    refine .inr (isAbove_iff.mpr ⟨names ++ [place.getLast some_step], ?_, ?_⟩)
    · rw [← List.append_assoc, ← reaches, List.dropLast_append_getLast]
    · rw [leadsDown_append given, leads]

end Place

namespace FileTree

open Place (isAbove)

variable {tree after : FileTree} {place other : Place} {path : Path} {content : Text.Bytes}

theorem isDirectory_of_nodeAt? (there : tree.nodeAt? place = some .directory) :
    tree.isDirectory place = true := by
  unfold nodeAt? at there
  split at there
  · cases there
  split at there
  · cases there
  split at there
  · assumption
  · cases there

-- All above a place is a directory.
def Open (tree : FileTree) (place : Place) : Prop :=
  ∀ above, isAbove above place = true → tree.isDirectory above = true

-- A walk only goes on from directories.
theorem Open.walk {names : List Name} (start : tree.Open place)
    (walked : tree.walk place names = .ok other) : tree.Open other := by
  induction names generalizing place with
  | nil =>
    cases walked
    exact start
  | cons name rest ih =>
    unfold FileTree.walk at walked
    split at walked
    · rename_i there
      split at walked
      · cases walked
      · split at walked
        · cases walked
        · refine ih (fun above isAbove => ?_) walked
          rcases Place.isAbove_enter isAbove with rfl | before
          · exact isDirectory_of_nodeAt? there
          · exact start above before
    · cases walked
    · cases walked

-- Nothing is above the places where walks begin.
theorem open_start (rooted : Bool) : tree.Open (if rooted then [] else Place.root) := by
  intro above isAbove
  obtain ⟨names, reaches, leads⟩ := Place.isAbove_iff.mp isAbove
  cases rooted with
  | true =>
    cases (List.append_eq_nil_iff.mp reaches.symm).2
    cases leads
  | false =>
    rcases List.append_eq_singleton_iff.mp reaches.symm with ⟨-, rfl⟩ | ⟨-, rfl⟩
    · cases leads
    · cases leads

theorem open_locate (located : tree.locate path = .ok place) : tree.Open place := by
  unfold locate at located
  split at located
  · cases located
  · split at located
    · cases located
    · exact (open_start _).walk located

theorem find?_setContent (different : other ≠ place) (files : List (Place × Text.Bytes)) :
    (setContent place content files).find? (fun entry => entry.1 = other) =
      files.find? fun entry => entry.1 = other := by
  induction files with
  | nil => simp [setContent, different.symm]
  | cons entry rest ih =>
    unfold setContent
    split
    · rename_i here
      simp [here, different.symm]
    · rw [List.find?_cons, List.find?_cons, ih]

theorem any_setContent (p : Place → Bool) (files : List (Place × Text.Bytes)) :
    (setContent place content files).any (fun entry => p entry.1) =
      (p place || files.any fun entry => p entry.1) := by
  induction files with
  | nil => rfl
  | cons entry rest ih =>
    unfold setContent
    split
    · rename_i here
      simp [here]
    · rw [List.any_cons, List.any_cons, ih, Bool.or_left_comm]

theorem isDirectory_setContent (opened : tree.Open place) (other : Place) :
    isDirectory { tree with files := setContent place content tree.files } other =
      tree.isDirectory other := by
  unfold isDirectory
  dsimp only
  rw [any_setContent]
  cases above : isAbove other place with
  | false => rw [Bool.false_or]
  | true =>
    have before := opened other above
    unfold isDirectory at before
    rw [before]
    simp

-- A write changes nothing but what is at the place that its path leads to.
theorem write_elsewhere (written : tree.write path content = .ok after) :
    ∃ place, tree.locate path = .ok place ∧
      ∀ other, other ≠ place → after.nodeAt? other = tree.nodeAt? other := by
  unfold write at written
  split at written
  · cases written
  rename_i place located
  refine ⟨place, located, fun other different => ?_⟩
  split at written
  · cases written
  · split at written
    · cases written
    · split at written
      · cases written
        rfl
      · cases written
        unfold nodeAt? contentAt?
        rw [isDirectory_setContent (open_locate located)]
        dsimp only
        rw [find?_setContent different]

theorem nodeAt?_of_ask (asked : tree.ask path = .ok none) (located : tree.locate path = .ok place) :
    tree.nodeAt? place = none := by
  cases there : tree.nodeAt? place with
  | none => rfl
  | some node =>
    unfold ask at asked
    rw [lookup_located located there] at asked
    cases asked

-- Where nothing was, writing leaves all that there is.
theorem write_keeps (asked : tree.ask path = .ok none)
    (written : tree.write path content = .ok after) {node : Node}
    (there : tree.nodeAt? other = some node) : after.nodeAt? other = some node := by
  obtain ⟨place, located, elsewhere⟩ := write_elsewhere written
  rw [← there]
  apply elsewhere
  rintro rfl
  cases there.symm.trans (nodeAt?_of_ask asked located)

end FileTree
end PatchReview
