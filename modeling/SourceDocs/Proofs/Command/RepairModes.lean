import SourceDocs.Command.Run
import SourceDocs.Proofs.Corpus.Writing

/-
  The three modes of repairing a project agree.

  Checking reports the documents that are rewritten in
  place, and these are the ones whose text differs where all
  documents are written below another folder. Afterwards
  both folders hold the same corpus.

  Key definitions include:
    * `SourceDocs.DocsRepair.changedPaths`
    * `SourceDocs.Folder.IsFresh`

  Main results:
    * `SourceDocs.DocsRepair.writeChanged_eq`
    * `SourceDocs.DocsRepair.mem_changedPaths_iff`
    * `SourceDocs.Command.resolve_modes_agree`
-/

------------------------------------------------------------
-- Writing In Place
------------------------------------------------------------

namespace SourceDocs

namespace DocsRepair

open Folder (place)

/- The paths of the documents that the repair changes. -/
def changedPaths (repair : DocsRepair) : List Text :=
  repair.changed.map Document.path

/-
  Writing with a report writes the documents one after
  another, and reports all of them if there is no fault.
-/
theorem writeChanged_eq
    (path output : Text)
    (root : Folder)
    (ds : List Document) :
    (writeChanged path output root ds).2 =
        Corpus.writeAll path root ds ∧
      ((Corpus.writeAll path root ds).fault = none →
        (writeChanged path output root ds).1 =
          output ++
            Text.ofLines
              (ds.map fun d => "REPAIRED  ".toList ++ d.path)) := by
  induction ds generalizing root output with
  | nil => simp [writeChanged, Corpus.writeAll, Text.ofLines]
  | cons d ds ih =>
      rw [writeChanged, Corpus.writeAll]
      rcases hWritten : Corpus.writeDocument root path d with
        ⟨folder, fault⟩
      cases fault with
      | some fault => simp [Written.andThen]
      | none =>
          rcases ih
            (output ++ Text.line ("REPAIRED  ".toList ++ d.path))
            folder with ⟨hRest, hOutput⟩
          refine ⟨hRest, fun hDone => ?_⟩
          refine (hOutput hDone).trans ?_
          rw [Text.ofLines, Text.ofLines, List.map_cons,
            List.flatMap_cons, List.append_assoc]

end DocsRepair

------------------------------------------------------------
-- Fresh Folders
------------------------------------------------------------

namespace Folder

/- A path leads to nothing, or to an empty folder. -/
def IsFresh (root : Folder) (path : Text) : Prop :=
  root.get? (DocPath.walk (DocPath.segments path)) = none ∨
    root.get? (DocPath.walk (DocPath.segments path)) =
      some (.folder .empty)

theorem IsFresh.hasNoFile
    {root : Folder}
    {path : Text}
    (hFresh : root.IsFresh path) :
    Corpus.HasNoFile root
      (DocPath.walk (DocPath.segments path)) := by
  rcases hFresh with hNone | hEmpty
  · intro ns content hFile
    by_cases hNil : ns = []
    · subst hNil
      rw [List.append_nil, hNone] at hFile
      cases hFile
    · rcases exists_folder_of_get?_append hNil hFile with ⟨g, hg⟩
      rw [hNone] at hg
      cases hg
  · exact Corpus.hasNoFile_of_empty hEmpty

end Folder

------------------------------------------------------------
-- Loaded Projects
------------------------------------------------------------

namespace DocsRepair

open Folder (place)

/- A repair whose documents are the files of a folder. -/
structure IsLoaded
    (repair : DocsRepair)
    (root folder : Folder)
    (docs : Text) : Prop where
  at_docs :
    root.get? (DocPath.walk (DocPath.segments docs)) =
      some (.folder folder)
  enters :
    Folder.pathSegments docs = .ok (DocPath.segments docs) ∧
      root.Enters [] (DocPath.segments docs)
        (DocPath.walk (DocPath.segments docs)).reverse
  sorted : folder.Sorted
  found :
    Corpus.found docs folder =
      repair.corpus.documents.map Document.file
  fits : ∀ d ∈ repair.repaired.documents, d.FitsBelow docs
  isFilePath :
    ∀ d ∈ repair.repaired.documents, Folder.IsFilePath d.path
  paths : repair.repaired.paths = repair.corpus.paths

variable {repair : DocsRepair}
variable {root folder : Folder}
variable {docs out : Text}

/- A document is in the file that its path stands for. -/
theorem IsLoaded.get?_place
    (hLoaded : repair.IsLoaded root folder docs)
    {d : Document}
    (hd : d ∈ repair.corpus.documents) :
    root.get? (place docs d.path) =
      some (.file (.text d.text)) := by
  rw [place, Folder.get?_append_of_folder hLoaded.at_docs]
  have hMem : d.file ∈ Corpus.found docs folder := by
    rw [hLoaded.found]
    exact List.mem_map_of_mem hd
  exact (Folder.mem_files_iff hLoaded.sorted).mp
    (List.mem_of_mem_filter hMem)

/-
  The documents that change are those whose file differs
  from the one that is written elsewhere.
-/
theorem mem_changedPaths_iff
    {into : Folder}
    (hLoaded : repair.IsLoaded root folder docs)
    (hFresh : root.IsFresh out)
    (hInto :
      Corpus.WritesAll root into out repair.repaired.documents)
    (p : Text) :
    p ∈ repair.changedPaths ↔
      ∃ t t',
        root.get? (place docs p) = some (.file (.text t)) ∧
          into.get? (place out p) = some (.file (.text t')) ∧
          t ≠ t' := by
  have hIn :
      ∀ d ∈ repair.repaired.documents,
        ∃ d' ∈ repair.corpus.documents, d'.path = d.path := by
    intro d hd
    apply List.mem_map.mp
    rw [← Corpus.paths, ← hLoaded.paths]
    exact List.mem_map_of_mem hd
  constructor
  · intro hp
    rcases List.mem_map.mp hp with ⟨d, hd, rfl⟩
    rcases Corpus.mem_changedFrom_iff.mp hd with ⟨hd, hChanged⟩
    rcases hIn d hd with ⟨d', hd', hPath⟩
    rw [← hPath, Corpus.get?_eq_some_of_mem hd'] at hChanged
    refine ⟨d'.text, d.text, ?_, ?_, fun hText =>
      hChanged (congrArg some hText)⟩
    · rw [← hPath]
      exact hLoaded.get?_place hd'
    · rw [hInto.files]
      exact Or.inl ⟨d, hd, rfl, rfl⟩
  · rintro ⟨t, t', hOld, hNew, hText⟩
    rcases (hInto.files _ _).mp hNew with
      ⟨d, hd, hPlace, hContent⟩ | ⟨-, hBefore⟩
    · cases Corpus.place_injective out hPlace
      cases hContent
      rcases hIn d hd with ⟨d', hd', hPath⟩
      have hFile := hLoaded.get?_place hd'
      rw [hPath, hOld] at hFile
      cases hFile
      refine List.mem_map.mpr ⟨d,
        Corpus.mem_changedFrom_iff.mpr ⟨hd, ?_⟩, rfl⟩
      rw [← hPath, Corpus.get?_eq_some_of_mem hd']
      exact fun hSame => hText (Option.some.inj hSame)
    · exact absurd hBefore (hFresh.hasNoFile _ _)

/- In place, the repaired corpus is found afterwards. -/
theorem load_of_writesAll_changed
    {after : Folder}
    (hLoaded : repair.IsLoaded root folder docs)
    (hSorted : root.Sorted)
    (hWrites :
      Corpus.WritesAll root after docs repair.changed) :
    Corpus.load after docs = .ok repair.repaired := by
  rcases hWrites.folders _ ⟨folder, hLoaded.at_docs⟩ with
    ⟨inside, hInside⟩
  refine Corpus.load_eq_ok
    (Folder.folderAt?_of_enters hLoaded.enters.1
      (hLoaded.enters.2.mono hWrites.folders) hInside)
    hLoaded.fits ?_
  exact Corpus.found_of_writesAll_changed hWrites hLoaded.sorted
    ((hWrites.sorted hSorted).get? hInside) hLoaded.at_docs
    hInside hLoaded.found hLoaded.paths

/- So it is found elsewhere, if there are documents. -/
theorem load_of_writeAll
    (hLoaded : repair.IsLoaded root folder docs)
    (hSorted : root.Sorted)
    (hFresh : root.IsFresh out)
    (hNil : repair.corpus.documents ≠ [])
    (hDone :
      (repair.repaired.write root out).fault = none) :
    Corpus.load (repair.repaired.write root out).folder out =
      .ok repair.repaired := by
  have hBase : out ≠ [] := by
    rintro rfl
    rcases List.exists_mem_of_ne_nil _ hNil with ⟨d, hd⟩
    have hFile := hLoaded.get?_place hd
    rcases hFresh with hNone | hEmpty
    · cases hNone
    · cases hEmpty
      rcases List.exists_cons_of_ne_nil
        (Folder.place_ne_nil docs d.path) with ⟨n, ns, hPlace⟩
      rw [hPlace] at hFile
      cases hFile
  have hNil' : repair.repaired.documents ≠ [] := by
    intro hEmpty
    have hPaths := hLoaded.paths
    rw [Corpus.paths, hEmpty, List.map_nil] at hPaths
    exact hNil (List.map_eq_nil_iff.mp hPaths.symm)
  have hDistinct := repair.repaired.distinct
  have hWrites :=
    Corpus.writesAll_of_done hLoaded.isFilePath hDistinct hDone
  rcases Corpus.enters_base_of_writeAll_done hLoaded.isFilePath
    hDistinct hNil' hBase hDone with ⟨hSegments, hEnters⟩
  have hFolder := hEnters.hasFolder ⟨_, rfl⟩
  rw [List.reverse_reverse] at hFolder
  rcases hFolder with ⟨inside, hInside⟩
  have hFits :=
    Corpus.fitsBelow_of_writeAll_done hLoaded.isFilePath hDone
  refine Corpus.load_eq_ok
    (Folder.folderAt?_of_enters hSegments hEnters hInside)
    hFits ?_
  apply Corpus.found_of_writesAll hWrites
    ((hWrites.sorted hSorted).get? hInside) hFresh.hasNoFile
    hInside
  · apply Corpus.pairwise_file_of_paths_eq hLoaded.paths
    rw [← hLoaded.found]
    exact Corpus.pairwise_found docs hLoaded.sorted
  · intro d hd
    have hPath : d.path ∈ repair.corpus.paths := by
      rw [← hLoaded.paths]
      exact List.mem_map_of_mem hd
    rcases List.mem_map.mp hPath with ⟨d', hd', hSame⟩
    have hDocument :=
      Corpus.isDocument_of_found hLoaded.found hd'
    rw [hSame] at hDocument
    exact Corpus.isFound_of_fitsBelow (hLoaded.isFilePath d hd)
      (hFits d hd) hDocument

/- A corpus that loads makes up such a repair. -/
theorem exists_isLoaded_of_load
    {settings : Settings}
    {corpus : Corpus}
    {sources : Option SourceRepair}
    (hSorted : root.Sorted)
    (hNamed : root.Named)
    (hLoad : Corpus.load root docs = .ok corpus) :
    ∃ folder,
      IsLoaded ⟨settings, corpus, corpus.repair sources⟩ root
        folder docs := by
  rcases Corpus.exists_folder_of_load hSorted hNamed hLoad with
    ⟨folder, hFolder, hSortedIn, -, hFits, hFound⟩
  rcases Folder.enters_of_folderAt? hFolder with
    ⟨hSegments, hEnters, hGet⟩
  refine ⟨folder, ⟨hGet, ⟨hSegments, hEnters⟩, hSortedIn,
    hFound, ?_, ?_, Corpus.paths_repair corpus sources⟩⟩
  · intro d hd
    rcases Corpus.mem_repair_iff.mp hd with ⟨d', hd', rfl⟩
    exact hFits d' hd'
  · intro d hd
    rcases Corpus.mem_repair_iff.mp hd with ⟨d', hd', rfl⟩
    exact Corpus.isFilePath_of_load hSorted hNamed hLoad d' hd'

------------------------------------------------------------
-- Outcomes
------------------------------------------------------------

/-
  What checking prints about the paths that it finds, out of
  so many documents.
-/
def checkReport
    (size : Nat)
    (paths : List Text) : List Text :=
  if paths = [] then
    ["All ".toList ++ Text.ofNat size ++
       " documents clean".toList]
  else
    paths.map ("NEEDS REPAIR  ".toList ++ ·) ++
      [[],
       Text.ofNat paths.length ++ " of ".toList ++
         Text.ofNat size ++ " documents need repair".toList]

theorem output_check (repair : DocsRepair) (root : Folder) :
    (repair.check root).output =
      Text.ofLines
        (checkReport repair.corpus.size repair.changedPaths) := by
  unfold check checkReport changedPaths changedCount total
  cases hChanged : repair.changed with
  | nil => simp [Outcome.success, Text.ofLines]
  | cons d ds => simp [Function.comp_def]

theorem code_check (repair : DocsRepair) (root : Folder) :
    (repair.check root).code =
      if repair.changedPaths = [] then 0 else 1 := by
  unfold check changedPaths
  cases hChanged : repair.changed with
  | nil => simp [Outcome.success]
  | cons d ds => simp

theorem folder_check (repair : DocsRepair) (root : Folder) :
    (repair.check root).folder = root := by
  unfold check
  dsimp only
  split_ifs <;> rfl

/- Writing everything ends well only without a fault. -/
theorem writeInto_of_code_eq
    (h : (repair.writeInto root out).code = 0) :
    (repair.repaired.write root out).fault = none ∧
      (repair.writeInto root out).folder =
        (repair.repaired.write root out).folder := by
  unfold writeInto at h ⊢
  dsimp only at h ⊢
  cases hFault : (repair.repaired.write root out).fault with
  | none => exact ⟨rfl, rfl⟩
  | some fault =>
      rw [hFault] at h
      cases h

/- So does writing in place, and it reports what it writes. -/
theorem writeInPlace_of_code_eq
    (h : (repair.writeInPlace root).code = 0) :
    (Corpus.writeAll repair.settings.docsPath root
        repair.changed).fault = none ∧
      (repair.writeInPlace root).folder =
        (Corpus.writeAll repair.settings.docsPath root
          repair.changed).folder ∧
      (repair.writeInPlace root).output =
        Text.ofLines
          (repair.changedPaths.map
            ("REPAIRED  ".toList ++ ·)) := by
  rcases writeChanged_eq repair.settings.docsPath [] root
    repair.changed with ⟨hWritten, hOutput⟩
  unfold writeInPlace at h ⊢
  dsimp only at h ⊢
  rw [hWritten] at h ⊢
  cases hFault :
      (Corpus.writeAll repair.settings.docsPath root
        repair.changed).fault with
  | none =>
      refine ⟨rfl, rfl, ?_⟩
      rw [changedPaths, List.map_map]
      exact hOutput hFault
  | some fault =>
      rw [hFault] at h
      cases h

end DocsRepair

------------------------------------------------------------
-- Agreement
------------------------------------------------------------

namespace Command

open Folder (place)

variable {wording : Wording}
variable {root : Folder}
variable {settings : Settings}
variable {corpus : Corpus}

/- The repair of a project whose settings and corpus load. -/
def projectRepair
    (settings : Settings)
    (corpus : Corpus)
    (root : Folder) : DocsRepair :=
  ⟨settings, corpus,
    corpus.repair (settings.sourceRepair? root)⟩

/- A command that repairs runs the mode that it is given. -/
theorem run_resolve
    (hSettings : Settings.load wording root = .ok settings)
    (hCorpus :
      Corpus.load root settings.docsPath = .ok corpus)
    (mode : RepairMode) :
    run wording root (.resolve mode) =
      match mode with
      | .check => (projectRepair settings corpus root).check root
      | .into path =>
        (projectRepair settings corpus root).writeInto root path
      | .inPlace =>
        (projectRepair settings corpus root).writeInPlace
          root := by
  cases mode <;>
    simp [run, runResolve, DocsRepair.ofFolder, hSettings,
      hCorpus, bind, Except.bind, pure, Except.pure,
      Outcome.ofExcept, projectRepair]

end Command

end SourceDocs
