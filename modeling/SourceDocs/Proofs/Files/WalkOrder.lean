import Mathlib.Data.Char
import Mathlib.Data.List.Lex
import SourceDocs.Proofs.Files.Folders

/-
  The order in which a walk meets files.

  Where folders list their entries in order, a walk meets
  the files in the order of their names, compared one after
  another. So what a walk meets is known once it is known
  which files there are.

  Main results:
    * `SourceDocs.Folder.pairwise_files`
    * `SourceDocs.Folder.mem_files_iff`
    * `SourceDocs.Folder.eq_of_mem_iff`
-/

namespace SourceDocs

namespace Folder

/- Whatever a walk meets under a later name comes later. -/
theorem cons_lt_of_mem_walk
    {n : Text}
    {ns : List Text}
    {enters : List Text → Bool}
    {rest : Folder}
    {file : List Text × Content}
    (hFirst : ∀ m ∈ rest.names, n < m)
    (hFile : file ∈ rest.walk enters) : n :: ns < file.1 := by
  rcases exists_cons_of_mem_walk hFile with ⟨m, ms, hEq, hm⟩
  rw [hEq]
  exact List.cons_lt_cons_iff.mpr (Or.inl (hFirst m hm))

/- Files are met in the order of their names. -/
theorem pairwise_files
    {f : Folder}
    (hSorted : f.Sorted) :
    f.files.Pairwise fun a b => a.1 < b.1 := by
  induction f with
  | empty => exact List.Pairwise.nil
  | file n content rest ih =>
      rw [files_file, List.pairwise_cons]
      constructor
      · intro file hFile
        exact cons_lt_of_mem_walk hSorted.1 hFile
      · exact ih hSorted.2
  | folder n inside rest ihInside ih =>
      rw [files_folder, List.pairwise_append]
      refine ⟨?_, ih hSorted.2.2, ?_⟩
      · rw [List.pairwise_map]
        refine (ihInside hSorted.2.1).imp ?_
        intro a b hLess
        exact List.cons_lt_cons_iff.mpr (Or.inr ⟨rfl, hLess⟩)
      · intro a ha b hb
        rcases List.mem_map.mp ha with ⟨⟨ns, content⟩, -, rfl⟩
        exact cons_lt_of_mem_walk hSorted.1 hb

/- The files are what names lead to. -/
theorem mem_files_iff
    {f : Folder}
    (hSorted : f.Sorted)
    {ns : List Text}
    {content : Content} :
    (ns, content) ∈ f.files ↔
      f.get? ns = some (.file content) :=
  ⟨get?_of_mem_walk hSorted, mem_files_of_get?⟩

/- Lists of files in order are equal if their members are. -/
theorem eq_of_mem_iff
    {as bs : List (List Text × Content)}
    (ha : as.Pairwise fun a b => a.1 < b.1)
    (hb : bs.Pairwise fun a b => a.1 < b.1)
    (hMem : ∀ file, file ∈ as ↔ file ∈ bs) : as = bs := by
  have hNodup :
      ∀ {cs : List (List Text × Content)},
        (cs.Pairwise fun a b => a.1 < b.1) → cs.Nodup := by
    intro cs hcs
    refine hcs.imp ?_
    rintro a b hLess rfl
    exact List.lt_irrefl a.1 hLess
  have hPerm : as.Perm bs :=
    (List.perm_ext_iff_of_nodup (hNodup ha) (hNodup hb)).mpr hMem
  refine hPerm.eq_of_pairwise ?_ ha hb
  intro a b _ _ hLess hGreater
  exact absurd hGreater (List.lt_asymm hLess)

end Folder

end SourceDocs
