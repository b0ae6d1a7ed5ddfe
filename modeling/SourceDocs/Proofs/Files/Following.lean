import SourceDocs.Files.Access
import SourceDocs.Proofs.Files.Folders
import SourceDocs.Proofs.Paths.Segments
import SourceDocs.Proofs.Text.Stretches

/-
  Where paths lead on disk.

  A path that leads somewhere leads there by the names that
  normalizing it leaves. The names of a file lead to it,
  provided the disk could hold it in the first place.

  Key definitions include:
    * `SourceDocs.Folder.IsEntryName`
    * `SourceDocs.Folder.OnDisk`

  Main results:
    * `SourceDocs.Folder.eq_of_follow`
    * `SourceDocs.Folder.get?_of_folderAt?`
    * `SourceDocs.Folder.isFile_of_mem_files`
-/

------------------------------------------------------------
-- Folders On Disk
------------------------------------------------------------

namespace SourceDocs

/- Components are put together as segments are. -/
theorem FilePath.ofComponents_eq (ns : List Text) :
    FilePath.ofComponents ns = DocPath.ofSegments ns := rfl

namespace Folder

/- A name that a file system gives to an entry. -/
structure IsEntryName (name : Text) : Prop where
  ne_nil : name ≠ []
  ne_here : name ≠ ['.']
  ne_up : name ≠ ['.', '.']
  slash : '/' ∉ name
  zero : Char.ofNat 0 ∉ name
  short : Text.byteLength name ≤ nameLimit

/-
  A folder as a disk can hold it: entries come in order, and
  every file has names that are given and a path that can be
  followed.
-/
structure OnDisk (root : Folder) : Prop where
  sorted : root.Sorted
  named : ∀ file ∈ root.files, ∀ n ∈ file.1, IsEntryName n
  reachable :
    ∀ file ∈ root.files,
      Text.byteLength
          (FilePath.join ['.'] (FilePath.ofComponents file.1)) ≤
        pathLimit

instance decidableSorted : (f : Folder) → Decidable f.Sorted
| .empty => isTrue trivial
| .file n _ rest =>
  have := decidableSorted rest
  inferInstanceAs
    (Decidable ((∀ m ∈ rest.names, n < m) ∧ rest.Sorted))
| .folder n inside rest =>
  have := decidableSorted inside
  have := decidableSorted rest
  inferInstanceAs
    (Decidable
      ((∀ m ∈ rest.names, n < m) ∧ inside.Sorted ∧ rest.Sorted))

instance (name : Text) : Decidable (IsEntryName name) :=
  decidable_of_iff
    (name ≠ [] ∧ name ≠ ['.'] ∧ name ≠ ['.', '.'] ∧
      '/' ∉ name ∧ Char.ofNat 0 ∉ name ∧
      Text.byteLength name ≤ nameLimit)
    ⟨fun ⟨hNil, hHere, hUp, hSlash, hZero, hShort⟩ =>
      ⟨hNil, hHere, hUp, hSlash, hZero, hShort⟩,
     fun ⟨hNil, hHere, hUp, hSlash, hZero, hShort⟩ =>
      ⟨hNil, hHere, hUp, hSlash, hZero, hShort⟩⟩

instance (root : Folder) : Decidable root.OnDisk :=
  decidable_of_iff
    (root.Sorted ∧
      (∀ file ∈ root.files, ∀ n ∈ file.1, IsEntryName n) ∧
      ∀ file ∈ root.files,
        Text.byteLength
            (FilePath.join ['.'] (FilePath.ofComponents file.1)) ≤
          pathLimit)
    ⟨fun ⟨hSorted, hNamed, hReachable⟩ =>
      ⟨hSorted, hNamed, hReachable⟩,
     fun ⟨hSorted, hNamed, hReachable⟩ =>
      ⟨hSorted, hNamed, hReachable⟩⟩

------------------------------------------------------------
-- Segments
------------------------------------------------------------

/- A segment that is followed is a step of a walk. -/
theorem follow_step
    {root : Folder}
    {trail ss names : List Text}
    {s : Text}
    (h : root.follow trail (s :: ss) = .ok names) :
    root.follow (DocPath.step trail s) ss = .ok names := by
  rw [follow.eq_def] at h
  dsimp only at h
  rw [DocPath.step]
  split_ifs at h ⊢ with hStay hUp hLong hNil
  · exact h
  · cases trail with
    | nil => cases h
    | cons _ up => exact h
  · split at h
    · cases h
    · exact h
    · rw [hNil, follow]
      exact h
  · split at h
    · cases h
    · exact h
    · cases h

/- Following segments that lead somewhere walks over them. -/
theorem eq_of_follow
    {root : Folder}
    {trail ss names : List Text}
    (h : root.follow trail ss = .ok names) :
    names = (ss.foldl DocPath.step trail).reverse := by
  induction ss generalizing trail with
  | nil =>
      cases h
      rfl
  | cons s ss ih => exact ih (follow_step h)

/- A name is followed into a folder, or to a file at the end. -/
theorem follow_name
    {root : Folder}
    {trail ss : List Text}
    {n : Text}
    {entry : Entry}
    (hName : IsEntryName n)
    (hEntry : root.get? (n :: trail).reverse = some entry)
    (hThrough : ss = [] ∨ ∃ f, entry = .folder f) :
    root.follow trail (n :: ss) = root.follow (n :: trail) ss := by
  rw [follow.eq_def]
  dsimp only
  rw [if_neg (by simp [hName.ne_nil, hName.ne_here]),
    if_neg hName.ne_up, if_neg (Nat.not_lt.mpr hName.short),
    hEntry]
  rcases hThrough with rfl | ⟨f, rfl⟩
  · cases entry <;> simp [follow]
  · rfl

/- The names of a file lead to it, from any folder above. -/
theorem follow_names
    {root : Folder}
    {trail ns : List Text}
    {content : Content}
    (hNames : ∀ n ∈ ns, IsEntryName n)
    (hFile :
      root.get? (trail.reverse ++ ns) = some (.file content)) :
    root.follow trail ns = .ok (trail.reverse ++ ns) := by
  induction ns generalizing trail with
  | nil => rw [follow, List.append_nil]
  | cons n ns ih =>
      have hName := hNames n List.mem_cons_self
      have hTrail :
          trail.reverse ++ n :: ns = (n :: trail).reverse ++ ns := by
        simp
      rw [hTrail] at hFile ⊢
      rw [← ih (fun m hm => hNames m (List.mem_cons_of_mem n hm))
        hFile]
      by_cases hNil : ns = []
      · subst hNil
        rw [List.append_nil] at hFile
        exact follow_name hName hFile (Or.inl rfl)
      · rcases exists_folder_of_get?_append hNil hFile with ⟨g, hg⟩
        exact follow_name hName hg (Or.inr ⟨g, rfl⟩)

------------------------------------------------------------
-- Paths
------------------------------------------------------------

theorem join_of_relative
    {path : Text}
    (hRelative : FilePath.isAbsolute path = false) :
    FilePath.join ['.'] path = '.' :: '/' :: path := by
  simp [FilePath.join, hRelative]

/- A path is split behind the working folder. -/
theorem eq_of_pathSegments
    {path : Text}
    {ss : List Text}
    (h : pathSegments (FilePath.join ['.'] path) = .ok ss) :
    ss = ['.'] :: DocPath.segments path := by
  cases hAbsolute : FilePath.isAbsolute path with
  | true =>
      have hJoin : FilePath.join ['.'] path = path := by
        simp [FilePath.join, hAbsolute]
      rw [hJoin, pathSegments] at h
      split_ifs at h
  | false =>
      rw [join_of_relative hAbsolute, pathSegments] at h
      split_ifs at h
      cases h
      exact DocPath.segments_append_slash ['.'] path

/- A folder that a path leads to is inside the root. -/
theorem get?_of_folderAt?
    {root inside : Folder}
    {path : Text}
    (h :
      root.folderAt? (FilePath.join ['.'] path) = some inside) :
    root.get? (DocPath.walk (DocPath.segments path)) =
      some (.folder inside) := by
  rw [folderAt?, locate] at h
  cases hSegments : pathSegments (FilePath.join ['.'] path) with
  | error fault => simp [hSegments, bind, Except.bind] at h
  | ok ss =>
      cases hFollow : root.follow [] ss with
      | error fault =>
          simp [hSegments, hFollow, bind, Except.bind] at h
      | ok names =>
          have hNames :
              names = DocPath.walk (DocPath.segments path) := by
            rw [eq_of_follow hFollow,
              eq_of_pathSegments hSegments]
            rfl
          simp only [hSegments, hFollow, bind, Except.bind] at h
          rw [← hNames]
          cases hEntry : root.get? names with
          | none => simp [hEntry] at h
          | some entry =>
              cases entry <;> simp_all

/- A path of names is relative. -/
theorem head?_ofComponents_ne
    {ns : List Text}
    (hNames : ∀ n ∈ ns, IsEntryName n) :
    (FilePath.ofComponents ns).head? ≠ some '/' := by
  rcases ns with _ | ⟨n, ns⟩
  · simp [FilePath.ofComponents, Text.join]
  · have hName := hNames n List.mem_cons_self
    rcases DocPath.exists_ofSegments_cons n ns with ⟨t, ht⟩
    rw [FilePath.ofComponents_eq, ht]
    exact Text.head?_append_ne hName.ne_nil hName.slash t

theorem isAbsolute_ofComponents
    {ns : List Text}
    (hNames : ∀ n ∈ ns, IsEntryName n) :
    FilePath.isAbsolute (FilePath.ofComponents ns) = false := by
  have hHead := head?_ofComponents_ne hNames
  rw [FilePath.isAbsolute.eq_def]
  split
  · next hPath => simp [hPath] at hHead
  · rfl

/- No zero character is in a path of names. -/
theorem zero_not_mem_ofComponents
    {ns : List Text}
    (hNames : ∀ n ∈ ns, IsEntryName n) :
    Char.ofNat 0 ∉ FilePath.ofComponents ns := by
  intro hMem
  rcases DocPath.mem_ofSegments hMem with hSlash | ⟨n, hn, hMem⟩
  · exact absurd hSlash (by decide)
  · exact (hNames n hn).zero hMem

/- The path of names is split into them. -/
theorem pathSegments_ofComponents
    {ns : List Text}
    (hNames : ∀ n ∈ ns, IsEntryName n)
    (hNil : ns ≠ [])
    (hLength :
      Text.byteLength
          (FilePath.join ['.'] (FilePath.ofComponents ns)) ≤
        pathLimit) :
    pathSegments
        (FilePath.join ['.'] (FilePath.ofComponents ns)) =
      .ok (['.'] :: ns) := by
  have hZero := zero_not_mem_ofComponents hNames
  rw [join_of_relative (isAbsolute_ofComponents hNames)]
    at hLength ⊢
  have hClean :
      List.contains ('.' :: '/' :: FilePath.ofComponents ns)
          (Char.ofNat 0) ≠ true := by
    simpa using hZero
  have hSplit :
      List.splitOn '/' ('.' :: '/' :: FilePath.ofComponents ns) =
        ['.'] :: ns := by
    refine (DocPath.segments_append_slash ['.'] _).trans ?_
    exact congrArg (['.'] :: ·)
      (List.splitOn_intercalate '/'
        (fun n hn => (hNames n hn).slash) hNil)
  rw [pathSegments, if_neg hClean, if_neg (by simp),
    if_neg (Nat.not_lt.mpr hLength),
    if_neg (by simp [FilePath.isAbsolute]), hSplit]

/- The path of a file on disk leads to it. -/
theorem isFile_of_mem_files
    {root : Folder}
    (hRoot : root.OnDisk)
    {ns : List Text}
    {content : Content}
    (h : (ns, content) ∈ root.files) :
    root.isFile
        (FilePath.join ['.'] (FilePath.ofComponents ns)) =
      true := by
  have hNames := hRoot.named _ h
  have hFile := get?_of_mem_walk hRoot.sorted h
  have hNil : ns ≠ [] := by
    rintro rfl
    cases hFile
  have hFollow : root.follow [] (['.'] :: ns) = .ok ns := by
    rw [follow.eq_def]
    exact follow_names hNames hFile
  rw [isFile, locate,
    pathSegments_ofComponents hNames hNil (hRoot.reachable _ h)]
  simp [bind, Except.bind, hFollow, hFile]

end Folder

end SourceDocs
