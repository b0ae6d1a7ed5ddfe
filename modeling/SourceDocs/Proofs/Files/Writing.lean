import SourceDocs.Proofs.Files.Making

/-
  Writing a file below a base.

  A file is written at the names that the base leads to,
  followed by those of the path. It is the only file that
  changes, and no folder is lost.

  Key definitions include:
    * `SourceDocs.Folder.place`
    * `SourceDocs.Folder.Writes`

  Main results:
    * `SourceDocs.Folder.writeText_join`
    * `SourceDocs.Folder.writes_of_done`
    * `SourceDocs.Folder.fault_writeFile`
-/

------------------------------------------------------------
-- Places
------------------------------------------------------------

namespace SourceDocs

namespace Folder

/- The names of the file that a path stands for below a base. -/
def place (base path : Text) : List Text :=
  DocPath.walk (DocPath.segments base) ++ DocPath.segments path

variable {root : Folder}
variable {base path : Text}

/- Only segments that count are steps of a walk. -/
theorem foldl_step_filter_counts
    (ss stack : List Text) :
    (ss.filter FilePath.counts).foldl DocPath.step stack =
      ss.foldl DocPath.step stack := by
  induction ss generalizing stack with
  | nil => rfl
  | cons s ss ih =>
      rw [List.filter_cons]
      split_ifs with hCounts
      · rw [List.foldl_cons, List.foldl_cons, ih]
      · rw [List.foldl_cons, DocPath.step, if_pos, ih]
        simpa [FilePath.counts, Classical.or_iff_not_imp_left]
          using hCounts

theorem walk_components (path : Text) :
    DocPath.walk (FilePath.components path) =
      DocPath.walk (DocPath.segments path) := by
  rw [DocPath.walk, DocPath.walk, FilePath.components_eq,
    foldl_step_filter_counts]

theorem foldl_step_entryNames
    {ns : List Text}
    (hNames : ∀ n ∈ ns, IsEntryName n)
    (stack : List Text) :
    ns.foldl DocPath.step stack = ns.reverse ++ stack := by
  induction ns generalizing stack with
  | nil => rfl
  | cons n ns ih =>
      have hn := hNames n List.mem_cons_self
      rw [List.foldl_cons, DocPath.step,
        if_neg (by simp [hn.ne_nil, hn.ne_here]),
        if_neg hn.ne_up,
        ih fun m hm => hNames m (List.mem_cons_of_mem n hm),
        List.reverse_cons, List.append_assoc,
        List.singleton_append]

/- The folder of a file below a base. -/
def folderPlace (base path : Text) : List Text :=
  DocPath.walk (DocPath.segments base) ++
    (DocPath.segments path).dropLast

/- The file of a path is in its folder. -/
theorem place_eq (base path : Text) :
    ∃ name ∈ DocPath.segments path,
      place base path = folderPlace base path ++ [name] ∧
      DocPath.segments path =
        (DocPath.segments path).dropLast ++ [name] := by
  have hNil : DocPath.segments path ≠ [] :=
    List.splitOn_ne_nil '/' path
  have hLast := (List.dropLast_append_getLast hNil).symm
  refine ⟨_, List.getLast_mem hNil, ?_, hLast⟩
  rw [place, folderPlace, List.append_assoc, ← hLast]

theorem place_ne_nil (base path : Text) :
    place base path ≠ [] := by
  rcases place_eq base path with ⟨name, -, hPlace, -⟩
  rw [hPlace]
  simp

/- Where the components of a file's folder lead. -/
theorem foldl_step_folder
    (hPath : IsFilePath path) :
    (FilePath.components base ++
        (DocPath.segments path).dropLast).foldl DocPath.step [] =
      (folderPlace base path).reverse := by
  rw [List.foldl_append, foldl_step_entryNames hPath.dropLast,
    folderPlace, ← walk_components, DocPath.walk]
  simp

------------------------------------------------------------
-- Accepted Paths
------------------------------------------------------------

/- What it takes for a path to be accepted. -/
theorem pathSegments_eq_ok_iff
    {ss : List Text} :
    pathSegments path = .ok ss ↔
      Char.ofNat 0 ∉ path ∧ path ≠ [] ∧
        Text.byteLength path ≤ pathLimit ∧
        FilePath.isAbsolute path = false ∧
        ss = DocPath.segments path := by
  unfold pathSegments
  constructor
  · intro h
    split_ifs at h with hZero hNil hLong hAbsolute
    cases h
    exact ⟨by simpa using hZero, hNil, Nat.not_lt.mp hLong,
      by simpa using hAbsolute, rfl⟩
  · rintro ⟨hZero, hNil, hShort, hRelative, rfl⟩
    rw [if_neg (by simpa using hZero), if_neg hNil,
      if_neg (Nat.not_lt.mpr hShort), if_neg (by simp [hRelative])]
    rfl

/- A base is accepted where a path below it is. -/
theorem pathSegments_base
    {ss : List Text}
    (hBase : base ≠ [])
    (hPath : FilePath.isAbsolute path = false)
    (h : pathSegments (FilePath.join base path) = .ok ss) :
    pathSegments base = .ok (DocPath.segments base) := by
  rw [pathSegments_eq_ok_iff] at h ⊢
  rcases h with ⟨hZero, -, hShort, hRelative, -⟩
  have hPrefix := FilePath.prefix_join base hPath
  exact ⟨fun hMem => hZero (hPrefix.subset hMem), hBase,
    Nat.le_trans (FilePath.byteLength_le_join base hPath) hShort,
    FilePath.isAbsolute_base_of_join hRelative hPath, rfl⟩

/- What leads to a folder passes through folders. -/
theorem enters_of_folderAt?
    {inside : Folder}
    (h : root.folderAt? path = some inside) :
    pathSegments path = .ok (DocPath.segments path) ∧
      root.Enters [] (DocPath.segments path)
        (DocPath.walk (DocPath.segments path)).reverse ∧
      root.get? (DocPath.walk (DocPath.segments path)) =
        some (.folder inside) := by
  rw [folderAt?, locate] at h
  cases hSegments : pathSegments path with
  | error fault => simp [hSegments, bind, Except.bind] at h
  | ok ss =>
      have hSs := (pathSegments_eq_ok_iff.mp hSegments).2.2.2.2
      subst hSs
      cases hFollow : root.follow [] (DocPath.segments path) with
      | error fault =>
          simp [hSegments, hFollow, bind, Except.bind] at h
      | ok names =>
          have hNames := eq_of_follow hFollow
          subst hNames
          simp only [hSegments, hFollow, bind, Except.bind] at h
          have hFolder :
              root.get? (DocPath.walk (DocPath.segments path)) =
                some (.folder inside) := by
            rw [DocPath.walk]
            cases hEntry :
                root.get?
                  ((DocPath.segments path).foldl DocPath.step
                    []).reverse with
            | none => simp [hEntry] at h
            | some entry =>
                cases entry <;> simp_all
          exact ⟨rfl, enters_of_follow hFollow ⟨inside, hFolder⟩,
            hFolder⟩

/- So a path leads there as long as these folders are there. -/
theorem folderAt?_of_enters
    {inside : Folder}
    {trail : List Text}
    (hSegments : pathSegments path = .ok (DocPath.segments path))
    (hEnters : root.Enters [] (DocPath.segments path) trail)
    (hFolder :
      root.get? (DocPath.walk (DocPath.segments path)) =
        some (.folder inside)) :
    root.folderAt? path = some inside := by
  have hFollow := follow_append hEnters []
  rw [List.append_nil, hEnters.eq_foldl, follow] at hFollow
  rw [DocPath.walk] at hFolder
  simp [folderAt?, locate, hSegments, bind, Except.bind, hFollow,
    hFolder]

------------------------------------------------------------
-- Making The Folder
------------------------------------------------------------

theorem ofComponents_eq_nil
    {cs : List Text}
    (hcs : ∀ s ∈ cs, FilePath.IsComponent s)
    (h : FilePath.ofComponents cs = []) : cs = [] := by
  rw [← FilePath.components_ofComponents hcs, h]
  rfl

/- Folders are made for each component, or none is made. -/
theorem makeFolders_of_done
    {cs : List Text}
    (hcs : ∀ s ∈ cs, FilePath.IsComponent s)
    (hDone :
      (root.makeFolders (FilePath.ofComponents cs)).fault =
        none) :
    root.makeFolders (FilePath.ofComponents cs) =
      makeBelow root false [] cs := by
  unfold makeFolders at hDone ⊢
  split_ifs at hDone ⊢ with hNil
  · rw [ofComponents_eq_nil hcs hNil]
    rfl
  · split at hDone
    · cases hDone
    · rw [FilePath.components_ofComponents hcs]

theorem makeFolders_ofComponents
    {cs : List Text}
    (hcs : ∀ s ∈ cs, FilePath.IsComponent s)
    (hZero : Char.ofNat 0 ∉ FilePath.ofComponents cs)
    (hShort :
      Text.byteLength (FilePath.ofComponents cs) ≤ pathLimit) :
    root.makeFolders (FilePath.ofComponents cs) =
      makeBelow root false [] cs := by
  unfold makeFolders
  split_ifs with hNil
  · rw [ofComponents_eq_nil hcs hNil]
    rfl
  · have hSegments :=
      pathSegments_eq_ok_iff.mpr ⟨hZero, hNil, hShort,
        FilePath.isAbsolute_ofComponents_of_forall hcs, rfl⟩
    rw [hSegments, FilePath.components_ofComponents hcs]

------------------------------------------------------------
-- Writing The File
------------------------------------------------------------

variable {t : Text}

/- A text is entered at the place of a path. -/
theorem writeText_join
    {trail : List Text}
    (hPath : IsFilePath path)
    (hSegments :
      pathSegments (FilePath.join base path) =
        .ok (DocPath.segments (FilePath.join base path)))
    (hEnters :
      root.Enters []
        (FilePath.components base ++
          (DocPath.segments path).dropLast) trail) :
    root.writeText (FilePath.join base path) t =
      match root.get? (place base path) with
      | some (.folder _) => .error .isFolder
      | _ => .ok
        (root.putAt (place base path) (.file (.text t))) := by
  rcases place_eq base path with ⟨name, hMem, hPlace, hLast⟩
  have hName := hPath name hMem
  rcases FilePath.exists_segments_join base
    hPath.isAbsolute with ⟨front, hJoin, hFront⟩
  have hAll :
      DocPath.segments (FilePath.join base path) =
        (front ++ (DocPath.segments path).dropLast) ++ [name] := by
    rw [hJoin, List.append_assoc, ← hLast]
  have hNamed :
      (((DocPath.segments (FilePath.join base path)).reverse
        |>.dropWhile (· = [])).reverse) =
      DocPath.segments (FilePath.join base path) := by
    rw [hAll, List.reverse_append, List.reverse_singleton,
      List.singleton_append,
      List.dropWhile_cons_of_neg (by simpa using hName.ne_nil),
      List.reverse_cons, List.reverse_reverse]
  have hFollow :
      root.follow []
          ((front ++ (DocPath.segments path).dropLast) ++ [[]]) =
        .ok (folderPlace base path) := by
    have hWay :
        root.Enters []
          (front ++ (DocPath.segments path).dropLast) trail := by
      apply Enters.of_filter_counts
      rw [List.filter_append, hFront,
        FilePath.filter_counts_of_forall fun s hs =>
          (hPath.dropLast s hs).isComponent]
      exact hEnters
    have hTrail := hEnters.eq_foldl
    rw [foldl_step_folder hPath] at hTrail
    rw [follow_append hWay, hTrail, follow.eq_def]
    simp [follow]
  rw [writeText, hSegments]
  simp only [bind, Except.bind, hNamed]
  rw [hAll, List.getLast?_concat, List.dropLast_concat, hFollow]
  simp only [Option.getD_some]
  rw [if_neg (by simp [hName.ne_here, hName.ne_up]), ← hPlace]
  exact if_neg (Nat.not_lt.mpr hName.short)

/- A file is written at names, and nothing else happens. -/
structure Writes
    (old new : Folder)
    (ns : List Text)
    (t : Text) : Prop where
  sorted : old.Sorted → new.Sorted
  files :
    ∀ ms content,
      new.get? ms = some (.file content) ↔
        ms = ns ∧ content = .text t ∨
          ms ≠ ns ∧ old.get? ms = some (.file content)
  folders : ∀ ms, old.HasFolder ms → new.HasFolder ms

/- Entering a file in its folder writes it. -/
theorem writes_putAt
    {ns : List Text}
    {name : Text}
    (hFolder : root.HasFolder ns)
    (hFree : ¬ root.HasFolder (ns ++ [name])) :
    Writes root
      (root.putAt (ns ++ [name]) (.file (.text t)))
      (ns ++ [name]) t := by
  have hWay := hFolder.isPassable name
  have hNone :
      ∀ inside,
        root.get? (ns ++ [name]) ≠ some (.folder inside) :=
    fun inside hIn => hFree ⟨inside, hIn⟩
  refine ⟨fun hSorted => ?_, fun ms content => ?_, fun ms h => ?_⟩
  · exact hSorted.putAt trivial hWay
  · exact get?_putAt_file_iff hWay (by simp) hNone
  · rcases h with ⟨g, hg⟩
    exact exists_folder_get?_putAt_of_folder hWay (by simp)
      hNone hg

theorem Extends.writes
    {old mid new : Folder}
    {ns : List Text}
    (hOld : Extends old mid)
    (hNew : Writes mid new ns t) : Writes old new ns t := by
  refine ⟨fun hSorted => hNew.sorted (hOld.sorted hSorted),
    fun ms content => ?_,
    fun ms hFolder => hNew.folders ms (hOld.folders ms hFolder)⟩
  rw [hNew.files, hOld.files]

theorem andThen_of_done
    {written : Written}
    {next : Folder → Written}
    (hDone : (written.andThen next).fault = none) :
    written = .done written.folder ∧
      written.andThen next = next written.folder := by
  rcases written with ⟨folder, fault⟩
  cases fault with
  | none => exact ⟨rfl, rfl⟩
  | some fault => cases hDone

/- The components of a file's folder. -/
def folderComponents (base path : Text) : List Text :=
  FilePath.components base ++ (DocPath.segments path).dropLast

/- The path of a file that is written was accepted. -/
theorem pathSegments_of_done
    (hDone : (root.writeFile path t).fault = none) :
    pathSegments path = .ok (DocPath.segments path) := by
  unfold writeFile at hDone
  dsimp only at hDone
  rcases andThen_of_done hDone with ⟨-, hWrite⟩
  rw [hWrite] at hDone
  cases hSegments : pathSegments path with
  | error fault =>
      simp [writeText, hSegments, bind, Except.bind,
        Written.stopped] at hDone
  | ok ss =>
      rw [(pathSegments_eq_ok_iff.mp hSegments).2.2.2.2]

/-
  What is known once a file is written: its path was
  accepted, its folder was made, and it was entered there.
-/
theorem exists_of_writeFile_done
    (hPath : IsFilePath path)
    (hDone :
      (root.writeFile (FilePath.join base path) t).fault =
        none) :
    ∃ made,
      makeBelow root false [] (folderComponents base path) =
        .done made ∧
      made.Enters [] (folderComponents base path)
        (folderPlace base path).reverse ∧
      ¬ made.HasFolder (place base path) ∧
      root.writeFile (FilePath.join base path) t =
        .done (made.putAt (place base path) (.file (.text t))) := by
  have hRelative := hPath.isAbsolute
  have hSegments := pathSegments_of_done hDone
  unfold writeFile at hDone ⊢
  dsimp only at hDone ⊢
  rcases andThen_of_done hDone with ⟨hMade, hWrite⟩
  rw [hWrite] at hDone ⊢
  have hBase : FilePath.isAbsolute base = false :=
    FilePath.isAbsolute_base_of_join
      (pathSegments_eq_ok_iff.mp hSegments).2.2.2.1 hRelative
  rw [FilePath.parent?_join hBase hPath] at hMade hDone ⊢
  dsimp only at hMade hDone ⊢
  have hParts :
      ∀ s ∈ folderComponents base path, FilePath.IsComponent s :=
    fun s hs => FilePath.isComponent_of_mem_parent hPath hs
  have hMadeDone :
      (root.makeFolders
          (FilePath.ofComponents
            (folderComponents base path))).fault = none := by
    rw [folderComponents, hMade]
    rfl
  have hFolders := makeFolders_of_done hParts hMadeDone
  rw [← folderComponents, hFolders] at hMade hDone ⊢
  rcases exists_enters_makeBelow ⟨root, rfl⟩ hParts
    (by rw [hMade]; rfl) with ⟨trail, hEnters⟩
  have hTrail := hEnters.eq_foldl
  rw [folderComponents, foldl_step_folder hPath] at hTrail
  rw [hTrail] at hEnters
  rw [writeText_join hPath hSegments hEnters] at hDone ⊢
  refine ⟨_, hMade, hEnters, ?_, ?_⟩
  · rintro ⟨g, hg⟩
    simp [hg, Written.stopped] at hDone
  · split at hDone
    · next hOk =>
        split at hOk
        · cases hOk
        · cases hOk
          rfl
    · cases hDone

/- Below a base that is there, only names are made. -/
theorem makeBelow_folderComponents
    {trail : List Text}
    (hEnters : root.Enters [] (DocPath.segments base) trail) :
    makeBelow root false [] (folderComponents base path) =
      makeBelow root false trail
        (DocPath.segments path).dropLast :=
  makeBelow_append (Enters.components_iff.mpr hEnters)
    (fun _ hs => FilePath.isComponent_of_mem_components hs) _

theorem extends_of_makeBelow
    {made : Folder}
    {cs : List Text}
    (hMade : makeBelow root false [] cs = .done made) :
    Extends root made := by
  have hHere : root.HasFolder ([] : List Text).reverse :=
    ⟨root, rfl⟩
  have h : Extends root (makeBelow root false [] cs).folder :=
    extends_makeBelow hHere
  rwa [hMade] at h

/- A file that is written is at its place. -/
theorem writes_of_done
    (hPath : IsFilePath path)
    (hDone :
      (root.writeFile (FilePath.join base path) t).fault =
        none) :
    Writes root
      (root.writeFile (FilePath.join base path) t).folder
      (place base path) t := by
  rcases exists_of_writeFile_done hPath hDone with
    ⟨made, hMade, hEnters, hFree, hWrite⟩
  have hFolder : made.HasFolder (folderPlace base path) := by
    have h := hEnters.hasFolder ⟨made, rfl⟩
    rwa [List.reverse_reverse] at h
  rcases place_eq base path with ⟨name, -, hPlace, -⟩
  rw [hWrite, hPlace]
  rw [hPlace] at hFree
  exact (extends_of_makeBelow hMade).writes
    (writes_putAt hFolder hFree)

/- The base of a file that is written leads to a folder. -/
theorem enters_base_of_done
    (hPath : IsFilePath path)
    (hDone :
      (root.writeFile (FilePath.join base path) t).fault =
        none) :
    (root.writeFile (FilePath.join base path) t).folder.Enters []
      (DocPath.segments base)
      (DocPath.walk (DocPath.segments base)).reverse := by
  rcases exists_of_writeFile_done hPath hDone with
    ⟨made, -, hEnters, hFree, hWrite⟩
  rcases hEnters.exists_of_append with ⟨trail, hBase, -⟩
  rw [Enters.components_iff] at hBase
  have hTrail := hBase.eq_foldl
  have hFolder : made.HasFolder (folderPlace base path) := by
    have h := hEnters.hasFolder ⟨made, rfl⟩
    rwa [List.reverse_reverse] at h
  rcases place_eq base path with ⟨name, -, hPlace, -⟩
  rw [hPlace] at hFree
  rw [hWrite, hPlace, DocPath.walk, List.reverse_reverse,
    ← hTrail]
  exact hBase.mono
    (writes_putAt hFolder hFree).folders

/- Below a folder, only folders on the way are made. -/
theorem hasFolder_of_writeFile
    {trail ms : List Text}
    (hPath : IsFilePath path)
    (hEnters : root.Enters [] (DocPath.segments base) trail)
    (hDone :
      (root.writeFile (FilePath.join base path) t).fault =
        none)
    (h :
      (root.writeFile (FilePath.join base path)
        t).folder.HasFolder ms) :
    root.HasFolder ms ∨ ms <+: place base path := by
  rcases exists_of_writeFile_done hPath hDone with
    ⟨made, hMade, hWay, hFree, hWrite⟩
  have hFolder : made.HasFolder (folderPlace base path) := by
    have h := hWay.hasFolder ⟨made, rfl⟩
    rwa [List.reverse_reverse] at h
  have hTrail := hEnters.eq_foldl
  rcases place_eq base path with ⟨name, -, hPlace, -⟩
  rw [hWrite, hPlace] at h
  rw [hPlace]
  rcases hasFolder_of_putAt (hFolder.isPassable name) (by simp)
    (fun _ _ => rfl) h with h | h
  · rw [makeBelow_folderComponents hEnters] at hMade
    have hIn :
        (makeBelow root false trail
          (DocPath.segments path).dropLast).folder.HasFolder
            ms := by
      rwa [hMade]
    have hMs :=
      hasFolder_of_makeBelow_names
        (hEnters.hasFolder ⟨root, rfl⟩) hPath.dropLast hIn
    refine hMs.imp_right fun hPrefix => ?_
    rw [hTrail] at hPrefix
    exact hPrefix.trans (List.prefix_append _ [name])
  · exact Or.inr h

/- No zero character is in the path of a file's folder. -/
theorem zero_not_mem_folder
    (hPath : IsFilePath path)
    (hZero : Char.ofNat 0 ∉ base) :
    Char.ofNat 0 ∉
      FilePath.ofComponents (folderComponents base path) := by
  intro hMem
  rcases DocPath.mem_ofSegments hMem with hSlash | ⟨s, hs, hMem⟩
  · exact absurd hSlash (by decide)
  · rcases List.mem_append.mp hs with hs | hs
    · exact hZero (FilePath.mem_of_mem_components hs hMem)
    · exact (hPath.dropLast s hs).zero hMem

/- A path below an accepted base is accepted, if short. -/
theorem pathSegments_join
    (hPath : IsFilePath path)
    (hBase : pathSegments base = .ok (DocPath.segments base))
    (hLength :
      Text.byteLength (FilePath.join base path) ≤ pathLimit) :
    pathSegments (FilePath.join base path) =
      .ok (DocPath.segments (FilePath.join base path)) := by
  rcases pathSegments_eq_ok_iff.mp hBase with
    ⟨hZero, hNil, -, hAbsolute, -⟩
  rw [pathSegments_eq_ok_iff]
  refine ⟨?_, ?_, hLength,
    FilePath.isAbsolute_join hAbsolute hPath.isAbsolute, rfl⟩
  · rw [FilePath.join, if_neg (by simp [hPath.isAbsolute]),
      if_neg hNil]
    have hSlash : Char.ofNat 0 ≠ '/' := by decide
    split_ifs
    · simp [hZero, hPath.zero_not_mem]
    · simp [hZero, hPath.zero_not_mem, hSlash]
  · rw [FilePath.join, if_neg (by simp [hPath.isAbsolute]),
      if_neg hNil]
    split_ifs <;> simp [hNil]

/- The folder of a file can be made below a folder. -/
theorem fault_makeBelow_folder
    (hPath : IsFilePath path)
    (hEnters :
      root.Enters [] (DocPath.segments base)
        (DocPath.walk (DocPath.segments base)).reverse)
    (hWay : root.IsPassable (place base path)) :
    (makeBelow root false [] (folderComponents base path)).fault =
      none := by
  rw [makeBelow_folderComponents hEnters]
  apply fault_makeBelow_names (hEnters.hasFolder ⟨root, rfl⟩)
    hPath.dropLast
  intro ms hPrefix
  rw [List.reverse_reverse]
  rcases place_eq base path with ⟨name, -, hPlace, -⟩
  have hUp :
      DocPath.walk (DocPath.segments base) ++ ms <+:
        folderPlace base path :=
    (List.prefix_append_right_inj _).mpr hPrefix
  apply hWay
  · rw [hPlace]
    exact hUp.trans (List.prefix_append _ [name])
  · intro hEq
    have hLength := hUp.length_le
    rw [hEq, hPlace, List.length_append,
      List.length_singleton] at hLength
    omega

/- A file can be written where nothing is in the way. -/
theorem fault_writeFile
    (hPath : IsFilePath path)
    (hBase : pathSegments base = .ok (DocPath.segments base))
    (hEnters :
      root.Enters [] (DocPath.segments base)
        (DocPath.walk (DocPath.segments base)).reverse)
    (hLength :
      Text.byteLength (FilePath.join base path) ≤ pathLimit)
    (hWay : root.IsPassable (place base path))
    (hFree : ¬ root.HasFolder (place base path)) :
    (root.writeFile (FilePath.join base path) t).fault =
      none := by
  rcases pathSegments_eq_ok_iff.mp hBase with
    ⟨hZero, -, -, hAbsolute, -⟩
  have hParts :
      ∀ s ∈ folderComponents base path, FilePath.IsComponent s :=
    fun s hs => FilePath.isComponent_of_mem_parent hPath hs
  have hFolders :
      root.makeFolders
          (FilePath.ofComponents (folderComponents base path)) =
        makeBelow root false [] (folderComponents base path) := by
    apply makeFolders_ofComponents hParts
    · exact zero_not_mem_folder hPath hZero
    · refine Nat.le_trans (FilePath.byteLength_ofComponents_le ?_)
        hLength
      rw [FilePath.components_join base hPath.isAbsolute,
        hPath.components_eq]
      exact (List.Sublist.refl _).append (List.dropLast_sublist _)
  have hDone := fault_makeBelow_folder hPath hEnters hWay
  rcases exists_enters_makeBelow ⟨root, rfl⟩ hParts hDone with
    ⟨trail, hMade⟩
  -- Folders are made up to that of the file, so not in its place.
  have hStillFree :
      ¬ (makeBelow root false []
          (folderComponents base path)).folder.HasFolder
        (place base path) := by
    intro hFolder
    rw [makeBelow_folderComponents hEnters] at hFolder
    rcases hasFolder_of_makeBelow_names
      (hEnters.hasFolder ⟨root, rfl⟩) hPath.dropLast hFolder with
      h | h
    · exact hFree h
    · rcases place_eq base path with ⟨name, -, hPlace, -⟩
      rw [List.reverse_reverse, ← folderPlace, hPlace] at h
      have hLength := h.length_le
      rw [List.length_append, List.length_singleton] at hLength
      omega
  rw [writeFile, FilePath.parent?_join hAbsolute hPath]
  dsimp only
  rw [← folderComponents, hFolders, Written.andThen, hDone]
  dsimp only
  rw [writeText_join hPath
    (pathSegments_join hPath hBase hLength) hMade]
  split
  · rfl
  · next hError =>
      split at hError
      · next inside hIn => exact absurd ⟨inside, hIn⟩ hStillFree
      · cases hError

end Folder

end SourceDocs
