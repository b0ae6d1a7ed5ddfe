import SourceDocs.Proofs.Corpus.Inventory
import SourceDocs.Proofs.Corpus.Loading
import SourceDocs.SourceUrl.SourceIndex

/-
  What the index of the sources holds.

  A walk enters every file that has one of the extensions,
  and a name that is there already is not entered again. So
  a name is found as it is looked up in the entries of all
  these files, and the path that is found ends in the name.

  Key definitions include:
    * `SourceDocs.SourceIndex.entryOf?`
    * `SourceDocs.SourceIndex.entries`

  Main results:
    * `SourceDocs.SourceIndex.path?_ofFolder`
    * `SourceDocs.SourceIndex.exists_components_of_path?`
    * `SourceDocs.FilePath.fileName_ofComponents`
-/

------------------------------------------------------------
-- Entries
------------------------------------------------------------

namespace SourceDocs

namespace SourceIndex

/- What is entered for the file that names lead to. -/
def entryOf?
    (base extensions : List Text)
    (names : List Text) : Option (Text × Text) :=
  let name := names.getLast?.getD []
  if hasExtension extensions name then
    some (name, FilePath.ofComponents (base ++ names))
  else none

/- The entries of the files below a source root. -/
def entries
    (root : Folder)
    (sourceRoot : Text)
    (skipped extensions : List Text) : List (Text × Text) :=
  let start := place sourceRoot
  match root.folderAt? start with
  | none => []
  | some inside =>
    if skipped.contains (placeName start) then []
    else
      (inside.walkFrom start skipped.contains).filterMap
        fun (names, _) =>
          entryOf? (FilePath.components start) extensions names

/- A path counts only if its name has none before it. -/
theorem lookup_enter
    (paths : List (Text × Text))
    (name path n : Text) :
    (enter paths name path).lookup n =
      (paths.lookup n).or ([(name, path)].lookup n) := by
  rw [enter]
  split
  · next known hKnown =>
      exact (Text.lookup_or_of_known hKnown path n).symm
  · exact List.lookup_append

theorem lookup_enterFile
    (base extensions : List Text)
    (paths : List (Text × Text))
    (names : List Text)
    (n : Text) :
    (enterFile base extensions paths names).lookup n =
      (paths.lookup n).or
        ((entryOf? base extensions names).toList.lookup n) := by
  rw [enterFile, entryOf?]
  split_ifs
  · exact lookup_enter paths _ _ n
  · rw [Option.toList_none, List.lookup_nil, Option.or_none]

/- An entry in front is looked up before all others. -/
theorem lookup_filterMap_cons
    {α : Type}
    (made? : α → Option (Text × Text))
    (a : α)
    (as : List α)
    (n : Text) :
    ((a :: as).filterMap made?).lookup n =
      ((made? a).toList.lookup n).or
        ((as.filterMap made?).lookup n) := by
  rw [List.filterMap_cons]
  cases made? a with
  | none => exact Option.none_or.symm
  | some entry =>
      rw [Option.toList_some, ← List.lookup_append,
        List.singleton_append]

/- So it is with one file behind the other. -/
theorem lookup_foldl_enterFile
    (base extensions : List Text)
    (files : List (List Text))
    (paths : List (Text × Text))
    (n : Text) :
    (files.foldl (enterFile base extensions) paths).lookup n =
      (paths.lookup n).or
        ((files.filterMap (entryOf? base extensions)).lookup
          n) := by
  induction files generalizing paths with
  | nil =>
      rw [List.foldl_nil, List.filterMap_nil, List.lookup_nil,
        Option.or_none]
  | cons names files ih =>
      rw [List.foldl_cons, ih, lookup_enterFile,
        lookup_filterMap_cons, Option.or_assoc]

/- The index finds what is looked up in all entries. -/
theorem path?_ofFolder
    (root : Folder)
    (sourceRoot : Text)
    (skipped extensions : List Text)
    (name : Text) :
    (ofFolder root sourceRoot skipped extensions).path? name =
      (entries root sourceRoot skipped extensions).lookup
        name := by
  rw [path?, ofFolder, entries]
  dsimp only
  cases root.folderAt? (place sourceRoot) with
  | none => rfl
  | some inside =>
      dsimp only
      split_ifs
      · rfl
      · rw [lookup_foldl_enterFile, List.lookup_nil,
          Option.none_or, List.filterMap_map]
        rfl

/- What is found was entered for a file below the root. -/
theorem exists_of_path?
    {root : Folder}
    {sourceRoot : Text}
    {skipped extensions : List Text}
    {name path : Text}
    (h :
      (ofFolder root sourceRoot skipped extensions).path? name =
        some path) :
    ∃ inside names content,
      root.folderAt? (place sourceRoot) = some inside ∧
      (names, content) ∈
        inside.walkFrom (place sourceRoot) skipped.contains ∧
      name = names.getLast?.getD [] ∧
      path =
        FilePath.ofComponents
          (FilePath.components (place sourceRoot) ++ names) := by
  rw [path?_ofFolder] at h
  rcases List.lookup_eq_some_iff.mp h with ⟨front, back, hEq, -⟩
  have hMem :
      (name, path) ∈
        entries root sourceRoot skipped extensions := by
    rw [hEq]
    exact List.mem_append_right front List.mem_cons_self
  rw [entries] at hMem
  dsimp only at hMem
  split at hMem
  · cases hMem
  · next inside hInside =>
      split_ifs at hMem
      · cases hMem
      · rcases List.mem_filterMap.mp hMem with
          ⟨⟨names, content⟩, hWalk, hEntry⟩
        rw [entryOf?] at hEntry
        dsimp only at hEntry
        split_ifs at hEntry
        cases hEntry
        exact ⟨inside, names, content, hInside, hWalk, rfl, rfl⟩

/- In a checkout the path of a name ends in the name. -/
theorem exists_components_of_path?
    {root : Folder}
    {sourceRoot : Text}
    {skipped extensions : List Text}
    {name path : Text}
    (hSorted : root.Sorted)
    (hNamed : root.Named)
    (h :
      (ofFolder root sourceRoot skipped extensions).path? name =
        some path) :
    ∃ cs,
      (∀ s ∈ cs ++ [name], FilePath.IsComponent s) ∧
        path = FilePath.ofComponents (cs ++ [name]) := by
  rcases exists_of_path? h with
    ⟨inside, names, content, hInside, hWalk, hName, hPath⟩
  have hRoot := Folder.get?_of_folderAt? hInside
  have hEntry :=
    Folder.get?_of_mem_walk (hSorted.get? hRoot) hWalk
  have hNames : ∀ n ∈ names, Folder.IsEntryName n :=
    hNamed.get? hSorted hRoot _ (Folder.mem_files_of_get? hEntry)
  have hNil : names ≠ [] := by
    rintro rfl
    cases hEntry
  rcases List.eq_nil_or_concat' names with rfl | ⟨front, n, rfl⟩
  · exact absurd rfl hNil
  · have hLast : name = n := by simpa using hName
    subst hLast
    refine
      ⟨FilePath.components (place sourceRoot) ++ front, ?_, ?_⟩
    · intro s hs
      rw [List.append_assoc] at hs
      rcases List.mem_append.mp hs with hs | hs
      · exact FilePath.isComponent_of_mem_components hs
      · exact (hNames s hs).isComponent
    · rw [hPath, List.append_assoc]

end SourceIndex

------------------------------------------------------------
-- Last Components
------------------------------------------------------------

/- The name of a path is its last component. -/
theorem FilePath.fileName_ofComponents
    {name : Text}
    (hName : '/' ∉ name)
    (cs : List Text) :
    DocPath.fileName (ofComponents (cs ++ [name])) = name := by
  rw [ofComponents_eq, DocPath.fileName]
  induction cs with
  | nil =>
      rw [List.nil_append, DocPath.ofSegments_singleton]
      exact Text.afterLast_eq_self hName
  | cons s cs ih =>
      rcases List.exists_cons_of_ne_nil
          (List.concat_ne_nil name cs) with ⟨t, ts, hEq⟩
      rw [hEq] at ih
      rw [List.cons_append, hEq, DocPath.ofSegments_cons_cons,
        Text.afterLast_append_cons, ih]

end SourceDocs
