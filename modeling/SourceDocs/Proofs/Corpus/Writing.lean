import Mathlib.Data.List.Nodup
import SourceDocs.Proofs.Corpus.Loading
import SourceDocs.Proofs.Corpus.Lookup

/-
  Writing a corpus and loading it again.

  Documents that are written one after another are at their
  places, and all other files are as they were. So what is
  written into an empty folder is what is found there.

  Key definitions include:
    * `SourceDocs.Corpus.WritesAll`

  Main results:
    * `SourceDocs.Corpus.writesAll_of_done`
    * `SourceDocs.Corpus.fault_writeAll`
    * `SourceDocs.Corpus.found_of_writesAll_changed`
    * `SourceDocs.Corpus.load_write`
-/

------------------------------------------------------------
-- Writing Documents
------------------------------------------------------------

namespace SourceDocs

namespace Corpus

open Folder (IsFilePath place)

variable {root root' : Folder}
variable {base : Text}
variable {ds : List Document}

/- Documents are written at their places, and nothing else. -/
structure WritesAll
    (old new : Folder)
    (base : Text)
    (ds : List Document) : Prop where
  sorted : old.Sorted → new.Sorted
  files :
    ∀ ms content,
      new.get? ms = some (.file content) ↔
        (∃ d ∈ ds, ms = place base d.path ∧
          content = .text d.text) ∨
        (∀ d ∈ ds, ms ≠ place base d.path) ∧
          old.get? ms = some (.file content)
  folders : ∀ ns, old.HasFolder ns → new.HasFolder ns

theorem place_injective (base : Text) :
    Function.Injective (place base) := by
  intro p q h
  exact segments_injective (List.append_cancel_left h)

/- One document more is written in front of others. -/
theorem WritesAll.cons
    {old mid new : Folder}
    {d : Document}
    (hDistinct : d.path ∉ ds.map Document.path)
    (hFirst : Folder.Writes old mid (place base d.path) d.text)
    (hRest : WritesAll mid new base ds) :
    WritesAll old new base (d :: ds) := by
  refine ⟨fun hSorted => hRest.sorted (hFirst.sorted hSorted),
    fun ms content => ?_,
    fun ns hFolder => hRest.folders ns (hFirst.folders ns hFolder)⟩
  have hApart :
      ∀ e ∈ ds, place base e.path ≠ place base d.path := by
    intro e he hPlace
    rw [← place_injective base hPlace] at hDistinct
    exact hDistinct (List.mem_map_of_mem he)
  rw [hRest.files, hFirst.files]
  constructor
  · rintro (⟨e, he, hMs, hContent⟩ |
      ⟨hNot, ⟨hMs, hContent⟩ | ⟨hMs, hOld⟩⟩)
    · exact Or.inl ⟨e, List.mem_cons_of_mem d he, hMs, hContent⟩
    · exact Or.inl ⟨d, List.mem_cons_self, hMs, hContent⟩
    · exact Or.inr ⟨List.forall_mem_cons.mpr ⟨hMs, hNot⟩, hOld⟩
  · rintro (⟨e, he, hMs, hContent⟩ | ⟨hNot, hOld⟩)
    · rcases List.mem_cons.mp he with rfl | he
      · refine Or.inr ⟨fun e' he' hMs' => ?_,
          Or.inl ⟨hMs, hContent⟩⟩
        exact hApart e' he' (hMs'.symm.trans hMs)
      · exact Or.inl ⟨e, he, hMs, hContent⟩
    · rw [List.forall_mem_cons] at hNot
      exact Or.inr ⟨hNot.2, Or.inr ⟨hNot.1, hOld⟩⟩

/- Whatever is written without a fault is at its place. -/
theorem writesAll_of_done
    (hPaths : ∀ d ∈ ds, IsFilePath d.path)
    (hDistinct : (ds.map Document.path).Nodup)
    (hDone : (writeAll base root ds).fault = none) :
    WritesAll root (writeAll base root ds).folder base ds := by
  induction ds generalizing root with
  | nil =>
      refine ⟨id, fun ms content => ?_, fun _ => id⟩
      simp [writeAll, Written.done]
  | cons d ds ih =>
      rw [List.map_cons, List.nodup_cons] at hDistinct
      rw [List.forall_mem_cons] at hPaths
      rw [writeAll] at hDone ⊢
      rcases Folder.andThen_of_done hDone with ⟨hFirst, hRest⟩
      rw [hRest] at hDone ⊢
      have hFirstDone :
          (writeDocument root base d).fault = none := by
        rw [hFirst]
        rfl
      have hWrites := Folder.writes_of_done hPaths.1 hFirstDone
      exact WritesAll.cons hDistinct.1 hWrites
        (ih hPaths.2 hDistinct.2 hDone)

/- The folder that documents are written below is there. -/
theorem enters_base_of_writeAll_done
    (hPaths : ∀ d ∈ ds, IsFilePath d.path)
    (hDistinct : (ds.map Document.path).Nodup)
    (hNil : ds ≠ [])
    (hBase : base ≠ [])
    (hDone : (writeAll base root ds).fault = none) :
    Folder.pathSegments base = .ok (DocPath.segments base) ∧
      (writeAll base root ds).folder.Enters []
        (DocPath.segments base)
        (DocPath.walk (DocPath.segments base)).reverse := by
  cases ds with
  | nil => exact absurd rfl hNil
  | cons d ds =>
      rw [List.map_cons, List.nodup_cons] at hDistinct
      rw [List.forall_mem_cons] at hPaths
      rw [writeAll] at hDone ⊢
      rcases Folder.andThen_of_done hDone with ⟨hFirst, hRest⟩
      rw [hRest] at hDone ⊢
      have hFile :
          (root.writeFile (FilePath.join base d.path)
            d.text).fault = none := by
        rw [← writeDocument, hFirst]
        rfl
      have hWrites :=
        writesAll_of_done hPaths.2 hDistinct.2 hDone
      exact ⟨Folder.pathSegments_base hBase hPaths.1.isAbsolute
          (Folder.pathSegments_of_done hFile),
        (Folder.enters_base_of_done hPaths.1 hFile).mono
          hWrites.folders⟩

/- What is written without a fault can be read again. -/
theorem fitsBelow_of_writeAll_done
    (hPaths : ∀ d ∈ ds, IsFilePath d.path)
    (hDone : (writeAll base root ds).fault = none) :
    ∀ d ∈ ds, d.FitsBelow base := by
  induction ds generalizing root with
  | nil => exact List.forall_mem_nil _
  | cons d ds ih =>
      rw [List.forall_mem_cons] at hPaths ⊢
      rw [writeAll] at hDone
      rcases Folder.andThen_of_done hDone with ⟨hFirst, hRest⟩
      rw [hRest] at hDone
      have hFile :
          (root.writeFile (FilePath.join base d.path)
            d.text).fault = none := by
        rw [← writeDocument, hFirst]
        rfl
      have hSegments := Folder.pathSegments_of_done hFile
      have hShort :=
        (Folder.pathSegments_eq_ok_iff.mp hSegments).2.2.1
      exact ⟨(fitsBelow_iff hPaths.1).mpr hShort,
        ih hPaths.2 hDone⟩

/- No document is where another one needs a folder. -/
def PrefixFree (ds : List Document) : Prop :=
  ds.Pairwise fun d e =>
    ¬ DocPath.segments d.path <+: DocPath.segments e.path ∧
      ¬ DocPath.segments e.path <+: DocPath.segments d.path

/- Documents can be written where nothing is in the way. -/
theorem fault_writeAll
    (hPaths : ∀ d ∈ ds, IsFilePath d.path)
    (hApart : PrefixFree ds)
    (hBase :
      Folder.pathSegments base = .ok (DocPath.segments base))
    (hEnters :
      root.Enters [] (DocPath.segments base)
        (DocPath.walk (DocPath.segments base)).reverse)
    (hShort :
      ∀ d ∈ ds,
        Text.byteLength (FilePath.join base d.path) ≤
          Folder.pathLimit)
    (hWay : ∀ d ∈ ds, root.IsPassable (place base d.path))
    (hFree : ∀ d ∈ ds, ¬ root.HasFolder (place base d.path)) :
    (writeAll base root ds).fault = none := by
  induction ds generalizing root with
  | nil => rfl
  | cons d ds ih =>
      rw [List.forall_mem_cons] at hPaths hShort hWay hFree
      rcases List.pairwise_cons.mp hApart with ⟨hApart, hRest⟩
      have hDone :
          (root.writeFile (FilePath.join base d.path)
            d.text).fault = none :=
        Folder.fault_writeFile hPaths.1 hBase hEnters hShort.1
          hWay.1 hFree.1
      have hWrites := Folder.writes_of_done hPaths.1 hDone
      rw [writeAll, writeDocument, Written.andThen, hDone]
      dsimp only
      apply ih hPaths.2 hRest (hEnters.mono hWrites.folders)
        hShort.2
      · intro e he ms hUp hNe content hFile
        rcases (hWrites.files ms content).mp hFile with
          ⟨rfl, -⟩ | ⟨-, hOld⟩
        · exact (hApart e he).1
            ((List.prefix_append_right_inj _).mp hUp)
        · exact hWay.2 e he ms hUp hNe content hOld
      · intro e he hFolder
        rcases Folder.hasFolder_of_writeFile hPaths.1 hEnters
          hDone hFolder with hOld | hUp
        · exact hFree.2 e he hOld
        · exact (hApart e he).2
            ((List.prefix_append_right_inj _).mp hUp)

------------------------------------------------------------
-- Loading What Was Written
------------------------------------------------------------

variable {folder inside : Folder}

/- No file is inside another one. -/
theorem eq_of_prefix_of_mem_files
    {ns ms : List Text}
    {content content' : Content}
    (hSorted : folder.Sorted)
    (hns : (ns, content) ∈ folder.files)
    (hms : (ms, content') ∈ folder.files)
    (hPrefix : ns <+: ms) : ns = ms := by
  rcases hPrefix with ⟨ks, rfl⟩
  by_cases hNil : ks = []
  · rw [hNil, List.append_nil]
  · rw [Folder.mem_files_iff hSorted] at hns hms
    rcases Folder.exists_folder_of_get?_append hNil hms with
      ⟨g, hg⟩
    rw [hns] at hg
    cases hg

/- So no document of a corpus that loads is inside another. -/
theorem prefixFree_of_found
    {path : Text}
    (hSorted : folder.Sorted)
    (hFound : found path folder = ds.map Document.file) :
    PrefixFree ds := by
  have hOrder := pairwise_found path hSorted
  have hMem :
      ∀ d ∈ ds, d.file ∈ folder.files := by
    intro d hd
    apply List.mem_of_mem_filter (p := (isFound path ·.1))
    rw [← found, hFound]
    exact List.mem_map_of_mem hd
  rw [hFound, List.pairwise_map] at hOrder
  refine hOrder.imp_of_mem ?_
  intro d e hd he hLess
  constructor
  · intro hPrefix
    rw [show d.file.1 = e.file.1 from
      eq_of_prefix_of_mem_files hSorted (hMem d hd) (hMem e he)
        hPrefix] at hLess
    exact List.lt_irrefl _ hLess
  · intro hPrefix
    rw [show e.file.1 = d.file.1 from
      eq_of_prefix_of_mem_files hSorted (hMem e he) (hMem d hd)
        hPrefix] at hLess
    exact List.lt_irrefl _ hLess

/- No file is where names lead, or inside what is there. -/
def HasNoFile (root : Folder) (names : List Text) : Prop :=
  ∀ ns content, root.get? (names ++ ns) ≠ some (.file content)

theorem hasNoFile_of_empty
    {names : List Text}
    (h : root.get? names = some (.folder .empty)) :
    HasNoFile root names := by
  intro ns content hFile
  rw [Folder.get?_append_of_folder h] at hFile
  cases ns <;> cases hFile

/- Nothing is in the way in an empty folder. -/
theorem isPassable_of_empty
    {names : List Text}
    (h : root.get? names = some (.folder .empty))
    (ns : List Text) : root.IsPassable (names ++ ns) := by
  intro ms hUp hNe content hFile
  rcases List.prefix_or_prefix_of_prefix hUp
    (List.prefix_append names ns) with hUp | ⟨ks, rfl⟩
  · have hFolder : root.HasFolder names := ⟨.empty, h⟩
    exact hFolder.get?_ne_file hUp content hFile
  · exact hasNoFile_of_empty h ks content hFile

theorem not_hasFolder_of_empty
    {names ns : List Text}
    (h : root.get? names = some (.folder .empty))
    (hNil : ns ≠ []) : ¬ root.HasFolder (names ++ ns) := by
  rintro ⟨g, hg⟩
  rw [Folder.get?_append_of_folder h] at hg
  cases ns with
  | nil => exact hNil rfl
  | cons n ns => cases hg

/-
  What is found where no file was are the documents that
  were written there.
-/
theorem found_of_writesAll
    (hWrites : WritesAll root root' base ds)
    (hSorted : inside.Sorted)
    (hNoFile :
      HasNoFile root (DocPath.walk (DocPath.segments base)))
    (hInside :
      root'.get? (DocPath.walk (DocPath.segments base)) =
        some (.folder inside))
    (hOrder :
      (ds.map Document.file).Pairwise fun a b => a.1 < b.1)
    (hMet : ∀ d ∈ ds, isFound base d.file.1 = true) :
    found base inside = ds.map Document.file := by
  refine Folder.eq_of_mem_iff (pairwise_found base hSorted)
    hOrder ?_
  rintro ⟨ns, content⟩
  rw [found, List.mem_filter, Folder.mem_files_iff hSorted,
    ← Folder.get?_append_of_folder hInside, hWrites.files,
    List.mem_map]
  constructor
  · rintro ⟨⟨d, hd, hPlace, rfl⟩ | ⟨-, hOld⟩, -⟩
    · exact ⟨d, hd, by
        rw [Document.file, List.append_cancel_left hPlace]⟩
    · exact absurd hOld (hNoFile ns content)
  · rintro ⟨d, hd, hFile⟩
    cases hFile
    exact ⟨Or.inl ⟨d, hd, rfl, rfl⟩, hMet d hd⟩

------------------------------------------------------------
-- Writing What Changed
------------------------------------------------------------

variable {older newer : Corpus}

/- A document that is found is in the corpus. -/
theorem mem_of_get?_eq_some
    {corpus : Corpus}
    {path t : Text}
    (h : corpus.get? path = some t) :
    (⟨path, t⟩ : Document) ∈ corpus.documents := by
  rw [get?, Option.map_eq_some_iff] at h
  rcases h with ⟨d, hFind, hText⟩
  have hPath : d.path = path := by
    simpa using List.find?_some hFind
  rw [← hPath, ← hText]
  exact List.mem_of_find?_eq_some hFind

/- Corpora with the same paths are in the same order. -/
theorem pairwise_file_of_paths_eq
    (hPaths : newer.paths = older.paths)
    (hOrder :
      (older.documents.map Document.file).Pairwise
        fun a b => a.1 < b.1) :
    (newer.documents.map Document.file).Pairwise
      fun a b => a.1 < b.1 := by
  have hSegments :
      ∀ corpus : Corpus,
        ((corpus.documents.map Document.file).Pairwise
            fun a b => a.1 < b.1) ↔
          (corpus.paths.map DocPath.segments).Pairwise
            (· < ·) := by
    intro corpus
    rw [paths, List.map_map, List.pairwise_map,
      List.pairwise_map]
    rfl
  rw [hSegments, hPaths, ← hSegments]
  exact hOrder

/- An older document at whose path none changed is kept. -/
theorem mem_of_path_notMem_changed
    {d : Document}
    (hPaths : newer.paths = older.paths)
    (hd : d ∈ older.documents)
    (hNot : d.path ∉ (newer.changedFrom older).map Document.path) :
    d ∈ newer.documents := by
  have hPath : d.path ∈ newer.paths := by
    rw [hPaths]
    exact List.mem_map_of_mem hd
  rcases List.mem_map.mp hPath with ⟨d', hd', hSame⟩
  have hKept : older.get? d'.path = some d'.text := by
    by_contra hChanged
    apply hNot
    rw [← hSame]
    exact List.mem_map_of_mem
      (mem_changedFrom_iff.mpr ⟨hd', hChanged⟩)
  rw [hSame, get?_eq_some_of_mem hd, Option.some.injEq] at hKept
  have hEq : d' = d := congrArg₂ Document.mk hSame hKept.symm
  exact hEq ▸ hd'

/- At the path of a document that is kept none changed. -/
theorem path_notMem_changed_of_get?
    {d : Document}
    (hd : d ∈ newer.documents)
    (hKept : older.get? d.path = some d.text) :
    d.path ∉ (newer.changedFrom older).map Document.path := by
  intro hPath
  rcases List.mem_map.mp hPath with ⟨e, he, hSame⟩
  rcases mem_changedFrom_iff.mp he with ⟨heIn, hChanged⟩
  have hEq : e = d :=
    List.inj_on_of_nodup_map newer.distinct heIn hd hSame
  exact hChanged (hEq ▸ hKept)

/-
  Where the documents that changed are written in place of
  older ones, the newer corpus is found.
-/
theorem found_of_writesAll_changed
    (hWrites :
      WritesAll root root' base (newer.changedFrom older))
    (hSorted : folder.Sorted)
    (hSorted' : inside.Sorted)
    (hFolder :
      root.get? (DocPath.walk (DocPath.segments base)) =
        some (.folder folder))
    (hInside :
      root'.get? (DocPath.walk (DocPath.segments base)) =
        some (.folder inside))
    (hFound :
      found base folder = older.documents.map Document.file)
    (hPaths : newer.paths = older.paths) :
    found base inside = newer.documents.map Document.file := by
  have hOrder :=
    pairwise_file_of_paths_eq hPaths
      (hFound ▸ pairwise_found base hSorted)
  have hOld :
      ∀ ns content,
        isFound base ns = true ∧
            folder.get? ns = some (.file content) ↔
          ∃ d ∈ older.documents, d.file = (ns, content) := by
    intro ns content
    rw [← List.mem_map, ← hFound, found, List.mem_filter,
      Folder.mem_files_iff hSorted, and_comm]
  refine Folder.eq_of_mem_iff (pairwise_found base hSorted')
    hOrder ?_
  rintro ⟨ns, content⟩
  rw [found, List.mem_filter, Folder.mem_files_iff hSorted',
    ← Folder.get?_append_of_folder hInside, hWrites.files,
    Folder.get?_append_of_folder hFolder, List.mem_map]
  constructor
  · rintro ⟨⟨d, hd, hPlace, rfl⟩ | ⟨hNot, hFile⟩, hMet⟩
    · exact ⟨d, (mem_changedFrom_iff.mp hd).1, by
        rw [Document.file, List.append_cancel_left hPlace]⟩
    · -- A file that was not written is an older document.
      rcases (hOld ns content).mp ⟨hMet, hFile⟩ with
        ⟨d, hd, hEq⟩
      cases hEq
      refine ⟨d, mem_of_path_notMem_changed hPaths hd ?_, rfl⟩
      intro hPath
      rcases List.mem_map.mp hPath with ⟨e, he, hSame⟩
      exact hNot e he (congrArg (place base) hSame.symm)
  · rintro ⟨d, hd, hFile⟩
    cases hFile
    have hMet : isFound base (DocPath.segments d.path) := by
      have hPath : d.path ∈ older.paths := by
        rw [← hPaths]
        exact List.mem_map_of_mem hd
      rcases List.mem_map.mp hPath with ⟨e, he, hSame⟩
      rw [← hSame]
      exact ((hOld _ _).mpr ⟨e, he, rfl⟩).1
    refine ⟨?_, hMet⟩
    by_cases hKept : older.get? d.path = some d.text
    · right
      refine ⟨fun e he hPlace => ?_,
        ((hOld _ _).mpr ⟨d, mem_of_get?_eq_some hKept, rfl⟩).2⟩
      apply path_notMem_changed_of_get? hd hKept
      rw [place_injective base hPlace]
      exact List.mem_map_of_mem he
    · exact Or.inl ⟨d, mem_changedFrom_iff.mpr ⟨hd, hKept⟩,
        rfl, rfl⟩

------------------------------------------------------------
-- Loading Again
------------------------------------------------------------

/- Loading and writing are inverse. -/
theorem load_write
    {path : Text}
    {corpus : Corpus}
    (hSorted : root.Sorted)
    (hNamed : root.Named)
    (hLoad : load root path = .ok corpus) :
    (corpus.paths.map octets).Pairwise (· < ·) ∧
      ∀ (root' : Folder) (path' : Text),
        root'.Sorted →
        root'.folderAt? path' = some .empty →
        (∀ p ∈ corpus.paths,
          Text.byteLength (FilePath.join path' p) ≤
            Folder.pathLimit) →
        ∃ root'',
          corpus.write root' path' = .done root'' ∧
            load root'' path' = .ok corpus := by
  refine ⟨pairwise_octets_of_load hSorted hNamed hLoad, ?_⟩
  intro root' path' hSorted' hEmpty hShort
  have hPaths := isFilePath_of_load hSorted hNamed hLoad
  rcases exists_folder_of_load hSorted hNamed hLoad with
    ⟨folder, -, hSortedIn, -, -, hFound⟩
  rcases Folder.enters_of_folderAt? hEmpty with
    ⟨hBase, hEnters, hGet⟩
  have hShortDocuments :
      ∀ d ∈ corpus.documents,
        Text.byteLength (FilePath.join path' d.path) ≤
          Folder.pathLimit := by
    intro d hd
    exact hShort _ (List.mem_map_of_mem hd)
  have hFits : ∀ d ∈ corpus.documents, d.FitsBelow path' := by
    intro d hd
    exact (fitsBelow_iff (hPaths d hd)).mpr (hShortDocuments d hd)
  have hDone : (corpus.write root' path').fault = none := by
    apply fault_writeAll hPaths
      (prefixFree_of_found hSortedIn hFound) hBase hEnters
    · exact hShortDocuments
    · exact fun d _ => isPassable_of_empty hGet _
    · exact fun d _ =>
        not_hasFolder_of_empty hGet (List.splitOn_ne_nil '/' _)
  have hWrites := writesAll_of_done hPaths corpus.distinct hDone
  rcases hWrites.folders _ ⟨.empty, hGet⟩ with ⟨inside, hInside⟩
  refine ⟨(corpus.write root' path').folder, ?_, ?_⟩
  · rcases hWritten : corpus.write root' path' with
      ⟨written, fault⟩
    rw [hWritten] at hDone
    cases hDone
    rfl
  · refine load_eq_ok
      (Folder.folderAt?_of_enters hBase
        (hEnters.mono hWrites.folders) hInside) hFits ?_
    have hSorted'' := (hWrites.sorted hSorted').get? hInside
    apply found_of_writesAll hWrites hSorted''
      (hasNoFile_of_empty hGet) hInside
    · rw [← hFound]
      exact pairwise_found path hSortedIn
    · intro d hd
      exact isFound_of_fitsBelow (hPaths d hd) (hFits d hd)
        (isDocument_of_found hFound hd)

/-
  Documents stay in their order where folders and files are
  mixed, and what is no document is left behind.
-/
theorem load_write_of_mixed :
    let root : Folder :=
      .folder "docs".toList
        (.file "a.md".toList (.text "# A".toList)
          (.folder "b".toList
            (.file "c.md".toList (.text "# C".toList)
              (.file "d.txt".toList (.text "d".toList) .empty))
            (.file "e.md".toList (.text "# E".toList) .empty)))
        (.folder "out".toList .empty .empty)
    ∃ corpus root'',
      load root "docs".toList = .ok corpus ∧
        corpus.paths =
          ["a.md".toList, "b/c.md".toList, "e.md".toList] ∧
        corpus.write root "out".toList = .done root'' ∧
        load root'' "out".toList = .ok corpus := by
  intro root
  let corpus : Corpus :=
    ⟨[⟨"a.md".toList, "# A".toList⟩,
      ⟨"b/c.md".toList, "# C".toList⟩,
      ⟨"e.md".toList, "# E".toList⟩], by decide⟩
  have hSorted : root.Sorted := by decide
  have hLoad : load root "docs".toList = .ok corpus := by
    decide +kernel
  have hEmpty : root.folderAt? "out".toList = some .empty := by
    decide +kernel
  rcases (load_write hSorted (by decide +kernel) hLoad).2 root
    "out".toList hSorted hEmpty (by decide +kernel) with
    ⟨root'', hWrite, hAgain⟩
  exact ⟨corpus, root'', hLoad, by decide +kernel, hWrite,
    hAgain⟩

/-
  The path of a document may be too long for the disk below
  the folder that it is written into.
-/
theorem load_write_too_long :
    let root : Folder :=
      .folder "a".toList
        (.file "b.md".toList (.text "x".toList) .empty)
        (.folder "t".toList .empty .empty)
    let path := 't' :: (List.replicate 2046 ['/', '.']).flatten
    ∃ corpus,
      load root "a".toList = .ok corpus ∧
        root.folderAt? path = some .empty ∧
        ¬ ∃ root'', corpus.write root path = .done root'' := by
  intro root path
  let corpus : Corpus :=
    ⟨[⟨"b.md".toList, "x".toList⟩], by decide⟩
  refine ⟨corpus, by decide +kernel, by decide +kernel, ?_⟩
  rintro ⟨root'', hWrite⟩
  have hFault :
      (corpus.write root path).fault = some .nameTooLong := by
    decide +kernel
  rw [hWrite] at hFault
  cases hFault

end Corpus

end SourceDocs
