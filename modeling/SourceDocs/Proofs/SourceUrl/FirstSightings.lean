import SourceDocs.Proofs.SourceUrl.IndexedPaths

/-
  The index holds the first sighting of each name.

  What is looked up in the index is found as by a search
  along the walk that skips nothing: for the first file with
  the name, with one of the extensions, and with no skipped
  folder on its way. The one thing beside this is the source
  root, whose own name may be skipped; the index is empty
  then.

  Key definitions include:
    * `SourceDocs.SourceIndex.isSighting`
    * `SourceDocs.SourceIndex.pathOf`
    * `SourceDocs.SourceIndex.IsFirstSighting`

  Main results:
    * `SourceDocs.SourceIndex.path?_eq_find?`
    * `SourceDocs.SourceIndex.get?_pathOf`
    * `SourceDocs.SourceIndex.path?_ofFolder_eq_some_iff`
-/

------------------------------------------------------------
-- Sightings
------------------------------------------------------------

namespace SourceDocs

namespace SourceIndex

variable {root tree : Folder}
variable {sourceRoot : Text}
variable {skipped extensions : List Text}

/- Whether names lead to a file that a name may stand for. -/
def isEntered
    (extensions : List Text)
    (name : Text)
    (names : List Text) : Bool :=
  decide (names.getLast? = some name) &&
    hasExtension extensions name

/-
  A file is a sighting of a name if it has the name, one of
  the extensions, and no skipped folder on its way.
-/
structure IsSighting
    (skipped extensions : List Text)
    (name : Text)
    (names : List Text) : Prop where
  last : names.getLast? = some name
  extension : hasExtension extensions name = true
  folders : ∀ n ∈ names.dropLast, n ∉ skipped

instance
    (skipped extensions : List Text)
    (name : Text)
    (names : List Text) :
    Decidable (IsSighting skipped extensions name names) :=
  decidable_of_iff
    (names.getLast? = some name ∧
      hasExtension extensions name = true ∧
      ∀ n ∈ names.dropLast, n ∉ skipped)
    ⟨fun ⟨hLast, hExtension, hFolders⟩ =>
      ⟨hLast, hExtension, hFolders⟩,
     fun ⟨hLast, hExtension, hFolders⟩ =>
      ⟨hLast, hExtension, hFolders⟩⟩

theorem isSighting_iff
    {name : Text}
    {names : List Text} :
    IsSighting skipped extensions name names ↔
      (!names.dropLast.any skipped.contains) = true ∧
        isEntered extensions name names = true := by
  unfold isEntered
  rw [Bool.and_eq_true, decide_eq_true_eq, Bool.not_eq_true',
    List.any_eq_false]
  simp only [List.contains_iff_mem]
  constructor
  · rintro ⟨hLast, hExtension, hFolders⟩
    exact ⟨hFolders, hLast, hExtension⟩
  · rintro ⟨hFolders, hLast, hExtension⟩
    exact ⟨hLast, hExtension, hFolders⟩

/- The path of a file below the source root. -/
def pathOf
    (sourceRoot : Text)
    (names : List Text) : Text :=
  FilePath.ofComponents
    (FilePath.components (place sourceRoot) ++ names)

/- A file is looked up by its name if it has an extension. -/
theorem lookup_entryOf?
    {names : List Text}
    (hNil : names ≠ [])
    (base extensions : List Text)
    (name : Text) :
    (entryOf? base extensions names).toList.lookup name =
      if isEntered extensions name names then
        some (FilePath.ofComponents (base ++ names))
      else none := by
  obtain ⟨n, hLast⟩ : ∃ n, names.getLast? = some n :=
    ⟨_, List.getLast?_eq_some_getLast hNil⟩
  unfold entryOf? isEntered
  by_cases hName : n = name
  · subst hName
    cases hExtension : hasExtension extensions n with
    | true => simp [hLast, hExtension]
    | false => simp [hLast, hExtension]
  · have hOther : (name == n) = false := by
      simpa using Ne.symm hName
    cases hExtension : hasExtension extensions n with
    | true =>
        simp [hLast, hExtension, hName, hOther, List.lookup_cons]
    | false => simp [hLast, hExtension, hName]

/- Of entries with a name the first is the one looked up. -/
theorem lookup_filterMap_entryOf?
    {files : List (List Text × Content)}
    (hNames : ∀ file ∈ files, file.1 ≠ [])
    (base extensions : List Text)
    (name : Text) :
    (files.filterMap fun file =>
        entryOf? base extensions file.1).lookup name =
      (files.find? fun file =>
        isEntered extensions name file.1).map
          fun file => FilePath.ofComponents (base ++ file.1) := by
  induction files with
  | nil => rfl
  | cons file files ih =>
      rw [List.forall_mem_cons] at hNames
      rw [lookup_filterMap_cons, lookup_entryOf? hNames.1,
        ih hNames.2, List.find?_cons]
      cases isEntered extensions name file.1 with
      | true => rfl
      | false => rfl

------------------------------------------------------------
-- First Sightings
------------------------------------------------------------

/- A name is looked up as by a search along the walk. -/
theorem path?_eq_find?
    (hSorted : root.Sorted)
    (hNamed : root.Named)
    (hTree : root.folderAt? (place sourceRoot) = some tree)
    (name : Text) :
    (ofFolder root sourceRoot skipped extensions).path? name =
      if placeName (place sourceRoot) ∈ skipped then none
      else
        ((tree.walkFrom (place sourceRoot) fun _ => false).find?
          fun file =>
            IsSighting skipped extensions name file.1).map
          fun file => pathOf sourceRoot file.1 := by
  have hStart :=
    Folder.startsWalk_of_folderAt? hSorted hNamed hTree
  rw [path?_ofFolder]
  unfold entries
  dsimp only
  rw [hTree]
  dsimp only
  by_cases hSkipped : placeName (place sourceRoot) ∈ skipped
  · simp [hSkipped]
  · have hNames :
        ∀ file ∈
            tree.walkFrom (place sourceRoot) skipped.contains,
          file.1 ≠ [] := by
      intro file hFile
      exact hStart.ne_nil_of_mem_walkFrom hFile
    have hLookup :=
      lookup_filterMap_entryOf? hNames
        (FilePath.components (place sourceRoot)) extensions name
    rw [if_neg (by simpa using hSkipped), if_neg hSkipped]
    apply hLookup.trans
    rw [hStart.walkFrom_skip, List.find?_filter]
    simp only [isSighting_iff, pathOf]

/- The path of a file leads to it in the repository. -/
theorem get?_pathOf
    {names : List Text}
    {content : Content}
    (hSorted : root.Sorted)
    (hNamed : root.Named)
    (hTree : root.folderAt? (place sourceRoot) = some tree)
    (hFile : tree.get? names = some (.file content)) :
    root.get?
        (DocPath.walk
          (DocPath.segments (pathOf sourceRoot names))) =
      some (.file content) := by
  rcases Folder.enters_of_folderAt? hTree with ⟨-, -, hGet⟩
  have hMem := Folder.mem_files_of_get? hFile
  have hNames := hNamed.get? hSorted hGet _ hMem
  have hComponents :
      ∀ s ∈ FilePath.components (place sourceRoot) ++ names,
        FilePath.IsComponent s := by
    intro s hs
    rcases List.mem_append.mp hs with hs | hs
    · exact FilePath.isComponent_of_mem_components hs
    · exact (hNames s hs).isComponent
  have hWalk :
      DocPath.walk (DocPath.segments (pathOf sourceRoot names)) =
        DocPath.walk (DocPath.segments (place sourceRoot)) ++
          names := by
    unfold pathOf
    rw [← Folder.walk_components,
      FilePath.components_ofComponents hComponents,
      ← Folder.walk_components (place sourceRoot)]
    unfold DocPath.walk
    rw [List.foldl_append, Folder.foldl_step_entryNames hNames,
      List.reverse_append, List.reverse_reverse]
  rw [hWalk, Folder.get?_append_of_folder hGet, hFile]

/-
  A walk that skips nothing meets, in the order of their
  names, the files whose folders can be opened. Looking up a
  name gives the path of its first sighting there, unless
  the name of the source root is skipped.
-/
theorem path?_ofFolder_eq_some_iff
    (hSorted : root.Sorted)
    (hNamed : root.Named)
    (hTree : root.folderAt? (place sourceRoot) = some tree)
    (skipped extensions : List Text)
    (name path : Text) :
    let met := tree.walkFrom (place sourceRoot) fun _ => false
    met.Pairwise (fun a b => a.1 < b.1) ∧
      (∀ names content,
        (names, content) ∈ met ↔
          tree.get? names = some (.file content) ∧
            Text.byteLength
                (FilePath.below (place sourceRoot)
                  names.dropLast) ≤
              Folder.pathLimit) ∧
      ((ofFolder root sourceRoot skipped extensions).path? name =
          some path ↔
        placeName (place sourceRoot) ∉ skipped ∧
        ∃ front names content back,
          met = front ++ (names, content) :: back ∧
          IsSighting skipped extensions name names ∧
          (∀ file ∈ front,
            ¬ IsSighting skipped extensions name file.1) ∧
          path = pathOf sourceRoot names ∧
          root.get? (DocPath.walk (DocPath.segments path)) =
            some (.file content)) := by
  intro met
  have hStart :=
    Folder.startsWalk_of_folderAt? hSorted hNamed hTree
  refine ⟨hStart.pairwise_walkFrom _, ?_, ?_⟩
  · intro names content
    exact hStart.mem_walkFrom_iff
  rw [path?_eq_find? hSorted hNamed hTree,
    Option.ite_none_left_eq_some, Option.map_eq_some_iff]
  apply and_congr_right
  intro _
  constructor
  · rintro ⟨⟨names, content⟩, hFind, rfl⟩
    rcases List.find?_eq_some_iff_append.mp hFind with
      ⟨hSighting, front, back, hEq, hFront⟩
    have hMet := List.mem_of_find?_eq_some hFind
    have hFile := (hStart.mem_walkFrom_iff.mp hMet).1
    refine ⟨front, names, content, back, hEq, ?_, ?_, rfl, ?_⟩
    · exact of_decide_eq_true hSighting
    · intro file hFile
      simpa using hFront file hFile
    · exact get?_pathOf hSorted hNamed hTree hFile
  · rintro ⟨front, names, content, back, hEq, hSighting,
      hFront, rfl, -⟩
    refine ⟨(names, content), ?_, rfl⟩
    apply List.find?_eq_some_iff_append.mpr
    refine ⟨decide_eq_true hSighting, front, back, hEq, ?_⟩
    intro file hFile
    simpa using hFront file hFile

/-
  Of three files with a name the one in a skipped folder is
  not indexed, and of the others the one that is met first.
-/
theorem path?_ofFolder_eq_some_iff_of_three :
    let tree : Folder :=
      .folder "App".toList
        (.file "Order.md".toList (.text [])
          (.folder "obj".toList
            (.file "Order.cs".toList (.text []) .empty) .empty))
        (.folder "B".toList
          (.file "Order.cs".toList (.text []) .empty)
          (.file "Order.cs".toList (.text []) .empty))
    let root : Folder := .folder "src".toList tree .empty
    let index :=
      ofFolder root "./src".toList defaultSkipped ["cs".toList]
    index.path? "Order.cs".toList =
      some "src/B/Order.cs".toList := by
  intro tree root index
  have hSorted : root.Sorted := by
    decide
  have hNamed : root.Named := by
    decide +kernel
  have hTree :
      root.folderAt? (place "./src".toList) = some tree := by
    decide +kernel
  have hIndex :=
    path?_ofFolder_eq_some_iff hSorted hNamed hTree
      defaultSkipped ["cs".toList] "Order.cs".toList
      "src/B/Order.cs".toList
  apply hIndex.2.2.mpr
  refine ⟨by decide, ?_⟩
  let skippedFile : List Text × Content :=
    (["App".toList, "obj".toList, "Order.cs".toList], .text [])
  let document : List Text × Content :=
    (["App".toList, "Order.md".toList], .text [])
  let last : List Text × Content :=
    (["Order.cs".toList], .text [])
  exact ⟨[document, skippedFile],
    ["B".toList, "Order.cs".toList], .text [], [last],
    by decide +kernel, by decide +kernel, by decide +kernel,
    by decide +kernel, by decide +kernel⟩

/-
  A source root with a skipped name gives no index, although
  its files are sighted.
-/
theorem path?_ofFolder_changes :
    let tree : Folder :=
      .file "A.cs".toList (.text []) .empty
    let root : Folder := .folder "bin".toList tree .empty
    root.folderAt? (place "bin".toList) = some tree ∧
      (tree.walkFrom (place "bin".toList) fun _ => false) =
        [(["A.cs".toList], .text [])] ∧
      IsSighting defaultSkipped ["cs".toList] "A.cs".toList
        ["A.cs".toList] ∧
      (ofFolder root "bin".toList defaultSkipped
        ["cs".toList]).path? "A.cs".toList = none := by
  decide +kernel

end SourceIndex

end SourceDocs
