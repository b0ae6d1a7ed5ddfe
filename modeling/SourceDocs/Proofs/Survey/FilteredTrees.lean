import SourceDocs.Proofs.Corpus.Loading
import SourceDocs.Proofs.Selection
import SourceDocs.Survey

/-
  A survey is a filter of all files.

  The walk of a survey leaves out folders, and it passes
  over files that are no sources and over those that cannot
  be read. What is left is one record for each file that is
  surveyed, in the order of all files below the source root.

  Key definitions include:
    * `SourceDocs.SurveyedFile.IsOf`
    * `SourceDocs.Settings.isSurveyed`

  Main results:
    * `SourceDocs.surveyFile?_eq_some_iff`
    * `SourceDocs.SurveyedFile.classification_ofSource`
    * `SourceDocs.survey_one_for_one`
-/

------------------------------------------------------------
-- Records
------------------------------------------------------------

namespace SourceDocs

open FilePath (below)
open Folder (pathLimit)

/- A record is made of a file's names and text alone. -/
def SurveyedFile.IsOf
    (settings : Settings)
    (file : List Text × Content)
    (record : SurveyedFile) : Prop :=
  ∃ t,
    file.2 = .text t ∧
      record =
        .ofSource settings (FilePath.ofComponents file.1) t

/- A record is classified by the path that it gives. -/
theorem SurveyedFile.classification_ofSource
    (settings : Settings)
    (path t : Text) :
    (ofSource settings path t).classification =
      .ofPath settings.rules
        (ofSource settings path t).record.path := by
  have hUnified := DocPath.unify_unify path
  unfold DocPath.unify at hUnified
  unfold ofSource SourceFile.ofText Classification.ofPath
  dsimp only
  rw [hUnified]

variable {settings : Settings}

/- A file that can be read is one with a text. -/
theorem readAt_eq_ok_iff
    {path t : Text}
    {content : Content} :
    content.readAt path = .ok t ↔
      content = .text t ∧ Text.byteLength path ≤ pathLimit := by
  unfold Content.readAt
  split_ifs with hLong
  · simp [Nat.not_le.mpr hLong]
  · cases content <;>
      simp [Content.text?, Nat.not_lt.mp hLong]

/- What it takes for a file to have a record. -/
theorem surveyFile?_eq_some_iff
    {names : List Text}
    {content : Content}
    {record : SurveyedFile} :
    surveyFile? settings names content = some record ↔
      names.getLast?.any settings.includesFile = true ∧
        Text.byteLength (below settings.sourcePath names) ≤
          pathLimit ∧
        record.IsOf settings (names, content) := by
  unfold surveyFile? SurveyedFile.IsOf
  cases names.getLast?.any settings.includesFile with
  | false => simp
  | true =>
      rw [if_pos rfl]
      cases hRead :
          content.readAt (below settings.sourcePath names) with
      | error fault =>
          have hNone :
              ∀ t, ¬ (content = .text t ∧
                Text.byteLength
                    (below settings.sourcePath names) ≤
                  pathLimit) := by
            intro t hOk
            rw [← readAt_eq_ok_iff, hRead] at hOk
            cases hOk
          dsimp only
          constructor
          · intro h
            cases h
          · rintro ⟨-, hShort, t, hText, -⟩
            exact absurd ⟨hText, hShort⟩ (hNone t)
      | ok t =>
          rcases readAt_eq_ok_iff.mp hRead with ⟨rfl, hShort⟩
          simp [hShort, eq_comm]

------------------------------------------------------------
-- Trees
------------------------------------------------------------

/-
  Whether a file is surveyed: no folder on its way is left
  out, its name is one of a source, it holds a text, and its
  path is no longer than the system accepts.
-/
def Settings.isSurveyed
    (settings : Settings)
    (file : List Text × Content) : Bool :=
  !file.1.dropLast.any settings.skipsFolder &&
    file.1.getLast?.any settings.includesFile &&
    file.2.text?.isSome &&
    decide
      (Text.byteLength (below settings.sourcePath file.1) ≤
        pathLimit)

/- A survey takes in a file if the walk meets a source. -/
theorem isSurveyed_eq_true_iff
    {file : List Text × Content}
    (hNames : ∀ n ∈ file.1, FilePath.isAbsolute n = false) :
    settings.isSurveyed file = true ↔
      Folder.isMetFrom settings.sourcePath settings.skipsFolder
          file.1 = true ∧
        ∃ record,
          surveyFile? settings file.1 file.2 = some record := by
  unfold Settings.isSurveyed Folder.isMetFrom
  simp only [Bool.and_eq_true, decide_eq_true_eq]
  constructor
  · rintro ⟨⟨⟨hFolders, hSource⟩, hText⟩, hShort⟩
    have hFolder :=
      FilePath.byteLength_below_dropLast_le settings.sourcePath
        hNames
    obtain ⟨t, hContent⟩ : ∃ t, file.2 = .text t := by
      cases hContent : file.2 with
      | text t => exact ⟨t, rfl⟩
      | binary octets => simp [hContent, Content.text?] at hText
    refine ⟨⟨hFolders, Nat.le_trans hFolder hShort⟩, ?_⟩
    exact ⟨_, surveyFile?_eq_some_iff.mpr
      ⟨hSource, hShort, t, hContent, rfl⟩⟩
  · rintro ⟨⟨hFolders, -⟩, record, hRecord⟩
    rcases surveyFile?_eq_some_iff.mp hRecord with
      ⟨hSource, hShort, t, hContent, -⟩
    have hText : file.2.text?.isSome = true := by
      rw [show file.2 = .text t from hContent]
      rfl
    exact ⟨⟨⟨hFolders, hSource⟩, hText⟩, hShort⟩

section

variable {root tree : Folder}

/- A survey goes over all files and passes over some. -/
theorem survey_eq_filterMap
    (hStart : tree.StartsWalk settings.sourcePath)
    (hTree : root.folderAt? settings.sourcePath = some tree) :
    survey settings root =
      tree.files.filterMap fun file =>
        if Folder.isMetFrom settings.sourcePath
            settings.skipsFolder file.1 then
          surveyFile? settings file.1 file.2
        else none := by
  unfold survey
  rw [hTree]
  dsimp only
  rw [hStart.walkFrom_eq_filter, List.filterMap_filter]

/- Those that it does not pass over are surveyed. -/
theorem forall₂_survey
    (hStart : tree.StartsWalk settings.sourcePath)
    (hTree : root.folderAt? settings.sourcePath = some tree) :
    List.Forall₂ (fun file record => record.IsOf settings file)
      (tree.files.filter settings.isSurveyed)
      (survey settings root) := by
  have hSurveyed :
      ∀ file ∈ tree.files,
        settings.isSurveyed file = true ↔ _ :=
    fun file hFile =>
      isSurveyed_eq_true_iff (hStart.relative file hFile)
  rw [survey_eq_filterMap hStart hTree]
  apply forall₂_filter_filterMap
  · intro file hFile hKept
    rcases (hSurveyed file hFile).mp hKept with
      ⟨hMet, record, hRecord⟩
    rw [if_pos hMet]
    exact ⟨record, hRecord,
      (surveyFile?_eq_some_iff.mp hRecord).2.2⟩
  · intro file hFile hOther
    rw [Option.eq_none_iff_forall_ne_some]
    intro record hRecord
    split at hRecord
    · next hMet =>
        have hKept :=
          (hSurveyed file hFile).mpr ⟨hMet, record, hRecord⟩
        rw [hOther] at hKept
        cases hKept
    · cases hRecord

/-
  A survey gives one record for each file that is surveyed,
  in the order of all files below the source root, and the
  record is made of the names and the text of that file; its
  classification is that of the path it gives.
-/
theorem survey_one_for_one
    (hSorted : root.Sorted)
    (hNamed : root.Named)
    (hTree : root.folderAt? settings.sourcePath = some tree) :
    tree.files.Pairwise (fun a b => a.1 < b.1) ∧
      List.Forall₂ (fun file record => record.IsOf settings file)
        (tree.files.filter settings.isSurveyed)
        (survey settings root) ∧
      ∀ file ∈ survey settings root,
        file.classification =
          .ofPath settings.rules file.record.path := by
  have hStart :=
    Folder.startsWalk_of_folderAt? hSorted hNamed hTree
  refine ⟨Folder.pairwise_files hStart.sorted,
    forall₂_survey hStart hTree, ?_⟩
  intro record hRecord
  rw [survey_eq_filterMap hStart hTree] at hRecord
  rcases List.mem_filterMap.mp hRecord with ⟨file, -, hFile⟩
  split at hFile
  · rcases (surveyFile?_eq_some_iff.mp hFile).2.2 with ⟨t, -, rfl⟩
    exact SurveyedFile.classification_ofSource settings _ t
  · cases hFile

end

/-
  Of six files two have a record: the others are in a folder
  that is left out, have no name of a source, have a name
  that is left out, or hold no text.
-/
theorem survey_one_for_one_of_six :
    let ending (t : Text) : Glob :=
      ⟨'*' :: t, .anyText :: t.map .char⟩
    let tree : Folder :=
      .folder "bin".toList
        (.file "A.cs".toList (.text []) .empty)
        (.folder "lib".toList
          (.file "B.Designer.cs".toList (.text [])
            (.file "B.cs".toList (.text "class B".toList) .empty))
          (.file "no.cs".toList (.binary [255])
            (.file "no.md".toList (.text [])
              (.file "z.cs".toList (.text []) .empty))))
    let root : Folder := .folder "src".toList tree .empty
    let settings : Settings :=
      { rules := []
        docs := "docs".toList
        skippedFiles := [ending ".Designer.cs".toList]
        skippedFolders := [ending "bin".toList]
        files := [ending ".cs".toList]
        repository := none
        resolver := .default
        sourceRoot := "./src".toList }
    List.Forall₂ (fun file record => record.IsOf settings file)
      [(["lib".toList, "B.cs".toList], .text "class B".toList),
       (["z.cs".toList], .text [])]
      (survey settings root) := by
  intro ending tree root settings
  have hSorted : root.Sorted := by
    decide
  have hNamed : root.Named := by
    decide +kernel
  have hTree : root.folderAt? settings.sourcePath = some tree := by
    decide +kernel
  have hFilter :
      tree.files.filter settings.isSurveyed =
        [(["lib".toList, "B.cs".toList],
          .text "class B".toList),
         (["z.cs".toList], .text [])] := by
    decide +kernel
  rw [← hFilter]
  exact (survey_one_for_one hSorted hNamed hTree).2.1

/-
  A source with a text has no record where the path of the
  source root makes its path too long.
-/
theorem survey_changes :
    let tree : Folder :=
      .file "A.cs".toList (.text []) .empty
    let settings : Settings :=
      { rules := []
        docs := "docs".toList
        skippedFiles := []
        skippedFolders := []
        files := [⟨"*".toList, [.anyText]⟩]
        repository := none
        resolver := .default
        sourceRoot := (List.replicate 2046 ['.', '/']).flatten }
    tree.folderAt? settings.sourcePath = some tree ∧
      tree.files = [(["A.cs".toList], .text [])] ∧
      settings.includesFile "A.cs".toList = true ∧
      survey settings tree = [] := by
  decide +kernel

end SourceDocs
