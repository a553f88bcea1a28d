import PatchReview.Proofs.CommandLine.Kinds
import PatchReview.Proofs.Path.Reading

-- What a command line for a scan can say.  Its paths were read from arguments, and no other command
-- is taken for a scan.
namespace PatchReview
namespace CommandLine

variable {a : Arguments} {options : ScanOptions}

theorem readsBack_readPath {given : Text} {path : Path} (read : readPath given = .ok path) :
    path.ReadsBack := by
  unfold readPath at read
  split at read
  · cases read
  · rename_i clear
    cases read
    exact Path.readsBack_ofText (by simpa using clear)

theorem readsBack_mapM {others : List Text} {paths : List Path}
    (read : others.mapM readPath = .ok paths) : ∀ path ∈ paths, path.ReadsBack := by
  induction others generalizing paths with
  | nil =>
    cases read
    exact nofun
  | cons given rest ih =>
    rw [List.mapM_cons] at read
    obtain ⟨first, readFirst, read⟩ := ok_of_bind read
    obtain ⟨more, readRest, read⟩ := ok_of_bind read
    cases read
    exact List.forall_mem_cons.mpr ⟨readsBack_readPath readFirst, ih readRest⟩

theorem readsBack_readScan (accepted : readScan a = .ok (.scan options)) :
    ∀ path ∈ options.paths, path.ReadsBack := by
  unfold readScan at accepted
  split at accepted
  · cases accepted
  · obtain ⟨paths, read, accepted⟩ := ok_of_bind accepted
    obtain ⟨output, -, accepted⟩ := ok_of_bind accepted
    cases accepted
    exact readsBack_mapM read

theorem parse_readsBack {arguments : List Text} (accepted : parse arguments = .ok (.scan options)) :
    ∀ path ∈ options.paths, path.ReadsBack := by
  rcases tells_of_parse accepted with help | ⟨kind, a, -, made⟩
  · cases help
  · cases Kind.kind?_make made
    exact readsBack_readScan made

end CommandLine
end PatchReview
