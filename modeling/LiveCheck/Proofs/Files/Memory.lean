import LiveCheck.Files.Memory
import LiveCheck.Proofs.Files.Path
import Mathlib.Data.List.Induction

/-!
Files kept in memory are listed in path order.

A list of files put in one by one comes out strictly ascending (`ascending_paths_ofList`), and
with every path that was put in as long as no path is spelled in two ways
(`mem_paths_ofList`).
-/

namespace LiveCheck.StoredFiles

variable {file other : StoredFile} {files : List StoredFile}

/-- Files stand in strictly ascending path order. -/
def Ascending (files : List StoredFile) : Prop :=
  files.Pairwise fun a b => a.path.before b.path = true

/-! ## Putting one file in -/

theorem mem_of_mem_place (mem : other ∈ place (fun _ new => new) file files) :
    other = file ∨ other ∈ files := by
  induction files with
  | nil => exact Or.inl (List.mem_singleton.1 mem)
  | cons first rest ih =>
      rw [place] at mem
      split at mem
      · exact List.mem_cons.1 mem
      · split at mem
        · exact (List.mem_cons.1 mem).imp_right (List.mem_cons_of_mem _)
        · rcases List.mem_cons.1 mem with rfl | mem
          · exact Or.inr List.mem_cons_self
          · exact (ih mem).imp_right (List.mem_cons_of_mem _)

theorem mem_place_self : file ∈ place (fun _ new => new) file files := by
  induction files with
  | nil => exact List.mem_singleton_self file
  | cons first rest ih =>
      rw [place]
      split
      · exact List.mem_cons_self
      · split
        · exact List.mem_cons_self
        · exact List.mem_cons_of_mem _ ih

/-- A file stays unless one is put in at the same path. -/
theorem mem_place_of_mem (mem : other ∈ files) (apart : file.path.same other.path = false) :
    other ∈ place (fun _ new => new) file files := by
  induction files with
  | nil => cases mem
  | cons first rest ih =>
      rw [place]
      split
      · exact List.mem_cons_of_mem _ mem
      · split
        · next replaced =>
          rcases List.mem_cons.1 mem with rfl | mem
          · rw [apart] at replaced
            cases replaced
          · exact List.mem_cons_of_mem _ mem
        · rcases List.mem_cons.1 mem with rfl | mem
          · exact List.mem_cons_self
          · exact List.mem_cons_of_mem _ (ih mem)

theorem ascending_place (ascending : Ascending files) :
    Ascending (place (fun _ new => new) file files) := by
  induction files with
  | nil => exact List.pairwise_singleton _ _
  | cons first rest ih =>
      have ⟨below, rest_ascending⟩ := List.pairwise_cons.1 ascending
      rw [place]
      split
      · next lt =>
        refine List.pairwise_cons.2 ⟨fun other mem => ?_, ascending⟩
        rcases List.mem_cons.1 mem with rfl | mem
        · exact lt
        · exact FilePath.before_trans lt (below other mem)
      · next not_lt =>
        split
        · next replaced =>
          refine List.pairwise_cons.2 ⟨fun other mem => ?_, rest_ascending⟩
          rw [FilePath.before, of_decide_eq_true replaced]
          exact below other mem
        · next apart =>
          have gt := ((file.path.before_trichotomy first.path).resolve_left not_lt).resolve_left
            apart
          refine List.pairwise_cons.2 ⟨fun other mem => ?_, ih rest_ascending⟩
          rcases mem_of_mem_place mem with rfl | mem
          · exact gt
          · exact below other mem

/-! ## Putting files in one by one -/

theorem files_ofList_concat (entries : List (FilePath × String)) (entry : FilePath × String) :
    (ofList (entries ++ [entry])).files =
      place (fun _ new => new) ⟨entry.1, entry.2⟩ (ofList entries).files := by
  rw [ofList, List.foldl_append]
  rfl

theorem ascending_ofList (entries : List (FilePath × String)) :
    Ascending (ofList entries).files := by
  induction entries using List.reverseRecOn with
  | nil => exact List.Pairwise.nil
  | append_singleton entries entry ih =>
      rw [files_ofList_concat]
      exact ascending_place ih

theorem ascending_paths_ofList (entries : List (FilePath × String)) :
    FilePath.Ascending (ofList entries).paths :=
  List.pairwise_map.2 (ascending_ofList entries)

/-- If no path is spelled in two ways, every path that is put in is there. -/
theorem mem_paths_ofList {entries : List (FilePath × String)} {path : FilePath}
    (alike : ∀ a ∈ entries.map (·.1), ∀ b ∈ entries.map (·.1), a.same b = true → a = b) :
    path ∈ (ofList entries).paths ↔ path ∈ entries.map (·.1) := by
  induction entries using List.reverseRecOn with
  | nil => exact Iff.rfl
  | append_singleton entries entry ih =>
      have earlier : ∀ a ∈ entries.map (·.1), a ∈ (entries ++ [entry]).map (·.1) := by
        intro a mem
        rw [List.map_append]
        exact List.mem_append_left _ mem
      have last : entry.1 ∈ (entries ++ [entry]).map (·.1) := by
        rw [List.map_append]
        exact List.mem_append_right _ (List.mem_singleton_self _)
      have ih := ih fun a aMem b bMem => alike a (earlier a aMem) b (earlier b bMem)
      rw [paths, files_ofList_concat]
      constructor
      · intro mem
        obtain ⟨file, placed, rfl⟩ := List.mem_map.1 mem
        rcases mem_of_mem_place placed with rfl | stored
        · exact last
        · exact earlier _ (ih.1 (List.mem_map_of_mem stored))
      · intro mem
        by_cases isLast : path = entry.1
        · rw [isLast]
          exact List.mem_map_of_mem (f := StoredFile.path) mem_place_self
        · rw [List.map_append, List.mem_append, List.map_singleton, List.mem_singleton] at mem
          obtain ⟨file, stored, rfl⟩ := List.mem_map.1 (ih.2 (mem.resolve_right isLast))
          refine List.mem_map_of_mem (mem_place_of_mem stored ?_)
          rw [Bool.eq_false_iff]
          intro same
          exact isLast (alike _ last _ (earlier _ (mem.resolve_right isLast)) same).symm

end LiveCheck.StoredFiles
