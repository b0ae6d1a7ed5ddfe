import Mathlib.Data.List.Basic
import SourceDocs.Files.Folder

/-
  Entries of folders and the files that a walk meets.

  Where entries are in order no name occurs twice, so the
  names that a walk gives with a file lead to that file.

  Main results:
    * `SourceDocs.Folder.get?_append_of_folder`
    * `SourceDocs.Folder.get?_of_mem_walk`
    * `SourceDocs.Folder.mem_files_of_get?`
-/

------------------------------------------------------------
-- Entries
------------------------------------------------------------

namespace SourceDocs

namespace Folder

/- Only the entry of the first name counts. -/
theorem get?_cons_congr
    {f g : Folder}
    {n : Text}
    (h : f.find? n = g.find? n)
    (ns : List Text) :
    get? (n :: ns) f = get? (n :: ns) g := by
  rw [get?, get?, h]

theorem get?_cons_of_folder
    {f inside : Folder}
    {n : Text}
    (h : f.find? n = some (.folder inside))
    (ns : List Text) : get? (n :: ns) f = get? ns inside := by
  rw [get?, h]

/- A file is where names end. -/
theorem get?_cons_of_file
    {f : Folder}
    {n : Text}
    {content : Content}
    (h : f.find? n = some (.file content))
    (ns : List Text) :
    get? (n :: ns) f =
      if ns = [] then some (.file content) else none := by
  rw [get?, h]

/- Names lead on from a folder as they do in it. -/
theorem get?_append_of_folder
    {f g : Folder}
    {ms : List Text}
    (h : f.get? ms = some (.folder g))
    (ns : List Text) : f.get? (ms ++ ns) = g.get? ns := by
  induction ms generalizing f with
  | nil =>
      cases h
      rfl
  | cons m ms ih =>
      cases hFind : f.find? m with
      | none => simp [get?, hFind] at h
      | some entry =>
          cases entry with
          | file content =>
              rw [get?_cons_of_file hFind] at h
              split_ifs at h
              cases h
          | folder inside =>
              rw [get?_cons_of_folder hFind] at h
              rw [List.cons_append, get?_cons_of_folder hFind,
                ih h]

/- What is inside something is inside a folder. -/
theorem exists_folder_of_get?_append
    {f : Folder}
    {ms ns : List Text}
    {entry : Entry}
    (hNil : ns ≠ [])
    (h : f.get? (ms ++ ns) = some entry) :
    ∃ g, f.get? ms = some (.folder g) := by
  induction ms generalizing f with
  | nil => exact ⟨f, rfl⟩
  | cons m ms ih =>
      rw [List.cons_append] at h
      cases hFind : f.find? m with
      | none => simp [get?, hFind] at h
      | some found =>
          cases found with
          | file content =>
              rw [get?_cons_of_file hFind,
                if_neg (by simp [hNil])] at h
              cases h
          | folder inside =>
              rw [get?_cons_of_folder hFind] at h ⊢
              exact ih h

/- Folders in an orderly folder are orderly. -/
theorem Sorted.find?
    {f inside : Folder}
    {n : Text}
    (hSorted : f.Sorted)
    (h : f.find? n = some (.folder inside)) :
    inside.Sorted := by
  induction f with
  | empty => cases h
  | file m content rest ih =>
      rw [Folder.find?] at h
      split_ifs at h
      · cases h
      · exact ih hSorted.2 h
  | folder m g rest _ ih =>
      rw [Folder.find?] at h
      split_ifs at h
      · cases h
        exact hSorted.2.1
      · exact ih hSorted.2.2 h

theorem Sorted.get?
    {f g : Folder}
    {ns : List Text}
    (hSorted : f.Sorted)
    (h : f.get? ns = some (.folder g)) : g.Sorted := by
  induction ns generalizing f with
  | nil =>
      cases h
      exact hSorted
  | cons n ns ih =>
      cases hFind : f.find? n with
      | none => simp [Folder.get?, hFind] at h
      | some entry =>
          cases entry with
          | file content =>
              rw [get?_cons_of_file hFind] at h
              split_ifs at h
              cases h
          | folder inside =>
              rw [get?_cons_of_folder hFind] at h
              exact ih (hSorted.find? hFind) h

/- A name that comes later is not the first one. -/
theorem ne_of_mem_names
    {n m : Text}
    {rest : Folder}
    (hFirst : ∀ m ∈ rest.names, n < m)
    (hm : m ∈ rest.names) : m ≠ n := by
  rintro rfl
  exact List.lt_irrefl m (hFirst m hm)

theorem get?_file_of_ne
    {n m : Text}
    (hNe : m ≠ n)
    (content : Content)
    (rest : Folder)
    (ms : List Text) :
    (file n content rest).get? (m :: ms) =
      rest.get? (m :: ms) :=
  get?_cons_congr (by rw [find?, if_neg hNe]) ms

theorem get?_folder_of_ne
    {n m : Text}
    (hNe : m ≠ n)
    (inside rest : Folder)
    (ms : List Text) :
    (folder n inside rest).get? (m :: ms) =
      rest.get? (m :: ms) :=
  get?_cons_congr (by rw [find?, if_neg hNe]) ms

------------------------------------------------------------
-- Walks
------------------------------------------------------------

variable {enters : List Text → Bool}
variable {ns : List Text}
variable {content : Content}

theorem mem_walk_file_iff
    {n : Text}
    {c : Content}
    {rest : Folder} :
    (ns, content) ∈ (file n c rest).walk enters ↔
      ns = [n] ∧ content = c ∨
        (ns, content) ∈ rest.walk enters := by
  rw [walk, List.mem_cons, Prod.mk.injEq]

theorem mem_walk_folder_iff
    {n : Text}
    {inside rest : Folder} :
    (ns, content) ∈ (folder n inside rest).walk enters ↔
      (∃ ms, ns = n :: ms ∧ enters [n] = true ∧
        (ms, content) ∈
          inside.walk fun ks => enters (n :: ks)) ∨
      (ns, content) ∈ rest.walk enters := by
  rw [walk, List.mem_append]
  cases enters [n] <;> simp [eq_comm, and_comm]

theorem files_file
    (n : Text)
    (c : Content)
    (rest : Folder) :
    (file n c rest).files = ([n], c) :: rest.files := rfl

theorem files_folder
    (n : Text)
    (inside rest : Folder) :
    (folder n inside rest).files =
      (inside.files.map fun (ms, c) => (n :: ms, c)) ++
        rest.files := rfl

/- A walk gives names that start in the folder. -/
theorem exists_cons_of_mem_walk
    {f : Folder}
    (h : (ns, content) ∈ f.walk enters) :
    ∃ m ms, ns = m :: ms ∧ m ∈ f.names := by
  induction f with
  | empty => cases h
  | file n c rest ih =>
      rcases mem_walk_file_iff.mp h with ⟨rfl, -⟩ | hRest
      · exact ⟨n, [], rfl, List.mem_cons_self⟩
      · rcases ih hRest with ⟨m, ms, hEq, hm⟩
        exact ⟨m, ms, hEq, List.mem_cons_of_mem n hm⟩
  | folder n inside rest _ ih =>
      rcases mem_walk_folder_iff.mp h with
        ⟨ms, rfl, -, -⟩ | hRest
      · exact ⟨n, ms, rfl, List.mem_cons_self⟩
      · rcases ih hRest with ⟨m, ms, hEq, hm⟩
        exact ⟨m, ms, hEq, List.mem_cons_of_mem n hm⟩

/- The root itself is no file. -/
theorem ne_nil_of_mem_files
    {root : Folder}
    (h : (ns, content) ∈ root.files) : ns ≠ [] := by
  rcases exists_cons_of_mem_walk h with ⟨m, ms, rfl, -⟩
  exact List.cons_ne_nil m ms

/- The names that a walk gives lead to the file. -/
theorem get?_of_mem_walk
    {f : Folder}
    (hSorted : f.Sorted)
    (h : (ns, content) ∈ f.walk enters) :
    f.get? ns = some (.file content) := by
  induction f generalizing ns enters with
  | empty => cases h
  | file n c rest ih =>
      rcases mem_walk_file_iff.mp h with ⟨rfl, rfl⟩ | hRest
      · rw [get?_cons_of_file (by rw [find?, if_pos rfl]),
          if_pos rfl]
      · rcases exists_cons_of_mem_walk hRest with ⟨m, ms, rfl, hm⟩
        rw [get?_file_of_ne (ne_of_mem_names hSorted.1 hm)]
        exact ih hSorted.2 hRest
  | folder n inside rest ihInside ih =>
      rcases mem_walk_folder_iff.mp h with
        ⟨ms, rfl, -, hInside⟩ | hRest
      · rw [get?_cons_of_folder (by rw [find?, if_pos rfl])]
        exact ihInside hSorted.2.1 hInside
      · rcases exists_cons_of_mem_walk hRest with ⟨m, ms, rfl, hm⟩
        rw [get?_folder_of_ne (ne_of_mem_names hSorted.1 hm)]
        exact ih hSorted.2.2 hRest

/- A file that names lead to is one of the files. -/
theorem mem_files_of_get?
    {f : Folder}
    (h : f.get? ns = some (.file content)) :
    (ns, content) ∈ f.files := by
  rw [files]
  rcases ns with _ | ⟨m, ms⟩
  · cases h
  induction f generalizing m ms with
  | empty => cases h
  | file n c rest ih =>
      rw [mem_walk_file_iff]
      by_cases hEq : m = n
      · subst hEq
        rw [get?_cons_of_file (by rw [find?, if_pos rfl])] at h
        split_ifs at h with hNil
        cases h
        exact Or.inl ⟨by rw [hNil], rfl⟩
      · rw [get?_file_of_ne hEq] at h
        exact Or.inr (ih m ms h)
  | folder n inside rest ihInside ih =>
      rw [mem_walk_folder_iff]
      by_cases hEq : m = n
      · subst hEq
        rw [get?_cons_of_folder (by rw [find?, if_pos rfl])] at h
        rcases ms with _ | ⟨m', ms⟩
        · cases h
        · exact Or.inl ⟨m' :: ms, rfl, rfl, ihInside m' ms h⟩
      · rw [get?_folder_of_ne hEq] at h
        exact Or.inr (ih m ms h)

end Folder

end SourceDocs
