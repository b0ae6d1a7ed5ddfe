import SourceDocs.Command.Run
import SourceDocs.Proofs.Files.Following
import SourceDocs.Proofs.Paths.PercentCodes
import SourceDocs.Proofs.SourceUrl.StandIns

/-
  URLs that a survey gives are kept by repair.

  A survey builds the URL of a file from the place of the
  file below the root of the project, and repair looks for
  the file where the URL says that it is. Both agree if the
  URL carries the whole path: the branch is one segment, no
  backslash became a slash, and nothing in the path reads as
  a query, a fragment or a percent code.

  Key definitions include:
    * `SourceDocs.Settings.surveyed`
    * `SourceDocs.Settings.fate?`
    * `SourceDocs.Settings.Carries`

  Main results:
    * `SourceDocs.Settings.map_snd_surveyed`
    * `SourceDocs.Settings.fate?_of_mem_surveyed`
-/

------------------------------------------------------------
-- Surveyed Files
------------------------------------------------------------

namespace SourceDocs

namespace Settings

/- The surveyed files, each with the names that lead to it. -/
def surveyed
    (settings : Settings)
    (root : Folder) : List (List Text × SurveyedFile) :=
  match root.folderAt? settings.sourcePath with
  | none => []
  | some tree =>
    (tree.walkFrom settings.sourcePath
        settings.skipsFolder).filterMap
      fun (names, content) =>
        (surveyFile? settings names content).map (names, ·)

theorem map_snd_surveyed
    (settings : Settings)
    (root : Folder) :
    (settings.surveyed root).map Prod.snd =
      survey settings root := by
  rw [surveyed, survey]
  cases root.folderAt? settings.sourcePath with
  | none => rfl
  | some tree =>
      dsimp only
      rw [List.map_filterMap]
      refine List.filterMap_congr fun file _ => ?_
      rw [Option.map_map]
      exact Option.map_id'

/- What repair says of the URL of a surveyed file. -/
def fate?
    (settings : Settings)
    (root : Folder)
    (file : SurveyedFile) : Option UrlVerdict := do
  let repair ← settings.sourceRepair? root
  let url ← file.url
  some (repair.repairUrl url)

/-
  What a URL carries of a path, if it can be taken for a
  source file at all, is the path.
-/
def Carries
    (settings : Settings)
    (path : Text) : Prop :=
  let carried := PercentCode.decode (BlobUrl.stretch path)
  (FilePath.extension? carried).any
      settings.resolver.extensions.contains = true →
    carried = path

instance (settings : Settings) (path : Text) :
    Decidable (settings.Carries path) :=
  inferInstanceAs (Decidable (_ → _))

/- A surveyed file lies below the source root. -/
theorem exists_of_mem_surveyed
    {settings : Settings}
    {root : Folder}
    {names : List Text}
    {file : SurveyedFile}
    (h : (names, file) ∈ settings.surveyed root) :
    ∃ tree content t,
      root.folderAt? (FilePath.join ['.'] settings.sourceRoot) =
        some tree ∧
      (names, content) ∈
        tree.walkFrom settings.sourcePath settings.skipsFolder ∧
      file =
        .ofSource settings (FilePath.ofComponents names) t := by
  rw [surveyed] at h
  split at h
  · cases h
  · next tree hTree =>
      rcases List.mem_filterMap.mp h with
        ⟨⟨ns, content⟩, hWalk, hFile⟩
      rw [Option.map_eq_some_iff] at hFile
      rcases hFile with ⟨file, hFile, hEq⟩
      cases hEq
      rw [surveyFile?] at hFile
      split_ifs at hFile
      split at hFile
      · next t _ =>
          cases hFile
          exact ⟨tree, content, t, hTree, hWalk, rfl⟩
      · cases hFile

end Settings

------------------------------------------------------------
-- Paths In The Repository
------------------------------------------------------------

namespace SurveyedFile

/- A path is normal behind the names of the source root. -/
theorem repositoryPath_ofComponents
    {sourceRoot : Text}
    {names : List Text}
    (hBackslash :
      '\\' ∉ sourceRoot ++ FilePath.ofComponents names)
    (hNames : ∀ n ∈ names, Folder.IsEntryName n) :
    repositoryPath sourceRoot (FilePath.ofComponents names) =
      FilePath.ofComponents
        (DocPath.walk (DocPath.segments sourceRoot) ++ names) := by
  rw [FilePath.ofComponents_eq, List.mem_append, not_or]
    at hBackslash
  have hAllNames : ∀ n ∈ names, DocPath.IsName n := by
    intro n hn
    have hName := hNames n hn
    exact ⟨hName.ne_nil, hName.ne_here, hName.ne_up, hName.slash,
      fun hc => hBackslash.2 (DocPath.mem_ofSegments_of_mem hn hc)⟩
  have hWhole :
      '\\' ∉ sourceRoot ++ '/' :: DocPath.ofSegments names := by
    simp [hBackslash]
  rw [repositoryPath, FilePath.ofComponents_eq,
    DocPath.normalize_eq hWhole, DocPath.segments_append_slash,
    DocPath.walk, List.foldl_append,
    DocPath.foldl_step_segments hAllNames, List.reverse_append,
    List.reverse_reverse, ← DocPath.walk]
  rfl

/- The path of names holds no scheme. -/
theorem not_schemeEnd_infix_ofComponents
    {ns : List Text}
    (hNames : ∀ n ∈ ns, Folder.IsEntryName n) :
    ¬ schemeEnd <:+: FilePath.ofComponents ns :=
  FilePath.not_schemeEnd_infix fun n hn =>
    (hNames n hn).isComponent

end SurveyedFile

------------------------------------------------------------
-- The Fate Of Their URLs
------------------------------------------------------------

/- A source that is there, or no source, is not replaced. -/
theorem SourceRepair.locate_of_isFile
    {repair : SourceRepair}
    {path : Text}
    (hThere :
      repair.isSource (PercentCode.decode path) = true →
        repair.checkout.isFile
            (FilePath.join ['.'] (PercentCode.decode path)) =
          true) :
    repair.locate path = .present ∨
      repair.locate path = .notSource := by
  rw [locate]
  cases hSource : repair.isSource (PercentCode.decode path) with
  | false => exact Or.inr rfl
  | true => exact Or.inl (by simp [hThere hSource])

namespace Settings

/- The URL of a surveyed file, and where it leads on disk. -/
theorem exists_place_of_mem_surveyed
    {settings : Settings}
    {root : Folder}
    {names : List Text}
    {file : SurveyedFile}
    (hRoot : root.OnDisk)
    (hFile : (names, file) ∈ settings.surveyed root)
    (hBackslash :
      '\\' ∉ settings.sourceRoot ++ FilePath.ofComponents names) :
    ∃ place content,
      (place, content) ∈ root.files ∧
      SurveyedFile.repositoryPath settings.sourceRoot
          (FilePath.ofComponents names) =
        FilePath.ofComponents place ∧
      file.url =
        settings.repository.map
          (·.build (FilePath.ofComponents place) none) := by
  rcases exists_of_mem_surveyed hFile with
    ⟨tree, content, t, hTree, hWalk, rfl⟩
  have hRootTree := Folder.get?_of_folderAt? hTree
  have hEntry :=
    Folder.get?_of_mem_walk (hRoot.sorted.get? hRootTree) hWalk
  rw [← Folder.get?_append_of_folder hRootTree] at hEntry
  have hMem := Folder.mem_files_of_get? hEntry
  have hNames : ∀ n ∈ names, Folder.IsEntryName n :=
    fun n hn => hRoot.named _ hMem n (List.mem_append_right _ hn)
  have hPath :=
    SurveyedFile.repositoryPath_ofComponents hBackslash hNames
  refine ⟨_, content, hMem, hPath, ?_⟩
  rw [SurveyedFile.ofSource, hPath]

/-
  The URL of a surveyed file is kept, for every project that
  a disk can hold: the branch is read as it was filled in,
  and the path leads back to the file, or is no source.
-/
theorem fate?_of_mem_surveyed
    {settings : Settings}
    {root : Folder}
    {repository : HostedRepository}
    {branch : Text}
    {names : List Text}
    {file : SurveyedFile}
    (hRepository :
      settings.repository = some (repository.template branch))
    (hReal : ¬ repository.IsStandIn)
    (hBranch : '/' ∉ branch)
    (hMark : ¬ UrlTemplate.pathMark <:+: branch)
    (hRoot : root.OnDisk)
    (hFile : (names, file) ∈ settings.surveyed root)
    (hBackslash :
      '\\' ∉ settings.sourceRoot ++ FilePath.ofComponents names)
    (hCarries :
      settings.Carries
        (SurveyedFile.repositoryPath settings.sourceRoot
          (FilePath.ofComponents names))) :
    settings.fate? root file = some .keep := by
  rcases exists_place_of_mem_surveyed hRoot hFile hBackslash with
    ⟨place, content, hMem, hPath, hUrl⟩
  rw [hPath] at hCarries
  have hNames := hRoot.named _ hMem
  have hHead := Folder.head?_ofComponents_ne hNames
  rw [fate?, sourceRepair?, hUrl, hRepository]
  simp only [Option.map_some, bind, Option.bind_some,
    repository.build_template hMark hHead, Option.some.injEq]
  refine SourceRepair.repairUrl_blobUrl hReal _ hBranch
    (SurveyedFile.not_schemeEnd_infix_ofComponents hNames) hHead
    (SourceRepair.locate_of_isFile fun hSource => ?_)
  have hWhole := hCarries hSource
  dsimp only at hWhole ⊢
  rw [hWhole]
  exact Folder.isFile_of_mem_files hRoot hMem

theorem fate?_of_mem_surveyed_project :
    let settings : Settings :=
      { rules := []
        docs := "docs".toList
        skippedFiles := []
        skippedFolders := []
        files := [⟨"*".toList, [.anyText]⟩]
        repository :=
          some
            (HostedRepository.template
              ⟨"org".toList, "shop".toList, by decide, by decide⟩
              "main".toList)
        resolver := .default
        sourceRoot := "lib/../src".toList }
    let root : Folder :=
      .folder "lib".toList .empty
        (.folder "src".toList
          (.file "50%.cs".toList (.text [])
            (.folder "C#".toList
              (.file "A b.cs".toList (.text []) .empty) .empty))
          .empty)
    (settings.surveyed root).map Prod.fst =
        [["50%.cs".toList], ["C#".toList, "A b.cs".toList]] ∧
      ∀ entry ∈ settings.surveyed root,
        settings.fate? root entry.2 = some .keep := by
  intro settings root
  refine ⟨by decide +kernel, fun entry hEntry => ?_⟩
  have hHold :
      ∀ entry ∈ settings.surveyed root,
        '\\' ∉ settings.sourceRoot ++
            FilePath.ofComponents entry.1 ∧
          settings.Carries
            (SurveyedFile.repositoryPath settings.sourceRoot
              (FilePath.ofComponents entry.1)) := by
    decide +kernel
  exact fate?_of_mem_surveyed (by rfl) (by decide) (by decide)
    (by decide +kernel) (by decide +kernel) hEntry
    (hHold entry hEntry).1 (hHold entry hEntry).2

/-
  Without the conditions URLs are not kept: a branch of two
  segments or with the mark of the path, and names with a
  number sign, a question mark, a percent code or a
  backslash.
-/
theorem fate?_of_mem_surveyed_changes :
    let settings (branch : Text) : Settings :=
      { rules := []
        docs := "docs".toList
        skippedFiles := []
        skippedFolders := []
        files := [⟨"*".toList, [.anyText]⟩]
        repository :=
          some
            (.ofAddress "https://github.com/org/shop".toList branch
              UrlTemplate.defaultFormat)
        resolver := .default
        sourceRoot := ['.'] }
    let root (name : Text) : Folder :=
      .folder "src".toList (.file name (.text []) .empty) .empty
    let fates (branch name : Text) : List (Option UrlVerdict) :=
      (survey (settings branch) (root name)).map
        ((settings branch).fate? (root name))
    let onBranch (rest : Text) : List (Option UrlVerdict) :=
      [some
        (.replace
          ("https://github.com/org/shop/blob/".toList ++ rest))]
    fates "main".toList "A.cs".toList = [some .keep] ∧
      fates "feature/x".toList "A.cs".toList =
        onBranch "feature/src/A.cs".toList ∧
      fates UrlTemplate.pathMark "A.cs".toList =
        onBranch "src/src/A.cs".toList ∧
      fates "main".toList "A.cs#B.cs".toList = [some .remove] ∧
      fates "main".toList "A.cs?B.cs".toList = [some .remove] ∧
      fates "main".toList "%41.cs".toList = [some .remove] ∧
      fates "main".toList "A\\B.cs".toList = [some .remove] := by
  decide +kernel

end Settings

end SourceDocs
