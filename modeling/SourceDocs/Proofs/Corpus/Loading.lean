import SourceDocs.Corpus.Store
import SourceDocs.Proofs.Corpus.Insertions
import SourceDocs.Proofs.Files.Walks
import SourceDocs.Proofs.Files.Writing
import SourceDocs.Proofs.Text.OctetOrder

/-
  Loading a corpus.

  The documents of a corpus that loads are the files found
  in its folder, one for one and in order. So they come in
  the order of their names, and a corpus is known from the
  files that there are.

  Key definitions include:
    * `SourceDocs.Document.file`
    * `SourceDocs.Document.FitsBelow`
    * `SourceDocs.Folder.Named`
    * `SourceDocs.Corpus.found`

  Main results:
    * `SourceDocs.Corpus.load_eq_ok`
    * `SourceDocs.Corpus.exists_folder_of_load`
    * `SourceDocs.Corpus.pairwise_octets_of_load`
-/

------------------------------------------------------------
-- Documents And Files
------------------------------------------------------------

namespace SourceDocs

/- The file that a document is in, below its corpus. -/
def Document.file (d : Document) : List Text × Content :=
  (DocPath.segments d.path, .text d.text)

/- The file of a document can be read below a path. -/
def Document.FitsBelow
    (path : Text)
    (d : Document) : Prop :=
  Text.byteLength
      (FilePath.below path (DocPath.segments d.path)) ≤
    Folder.pathLimit

/- All files have names that a file system gives. -/
def Folder.Named (root : Folder) : Prop :=
  ∀ file ∈ root.files, ∀ n ∈ file.1, Folder.IsEntryName n

instance (root : Folder) : Decidable root.Named :=
  inferInstanceAs
    (Decidable
      (∀ file ∈ root.files,
        ∀ n ∈ file.1, Folder.IsEntryName n))

namespace Folder

variable {root inside : Folder}
variable {names : List Text}

/- Files in a folder have names as those around it do. -/
theorem Named.get?
    (hNamed : root.Named)
    (hSorted : root.Sorted)
    (h : root.get? names = some (.folder inside)) :
    inside.Named := by
  intro file hFile n hn
  rcases file with ⟨ns, content⟩
  have hIn :=
    (mem_files_iff (hSorted.get? h)).mp hFile
  have hOut : (names ++ ns, content) ∈ root.files := by
    rw [mem_files_iff hSorted, get?_append_of_folder h]
    exact hIn
  exact hNamed _ hOut n (List.mem_append_right names hn)

/- A walk starts where a path leads on a disk. -/
theorem startsWalk_of_folderAt?
    {path : Text}
    (hSorted : root.Sorted)
    (hNamed : root.Named)
    (h : root.folderAt? path = some inside) :
    inside.StartsWalk path := by
  rcases enters_of_folderAt? h with ⟨hSegments, -, hGet⟩
  have hNamedIn := hNamed.get? hSorted hGet
  constructor
  · exact hSorted.get? hGet
  · exact (pathSegments_eq_ok_iff.mp hSegments).2.2.1
  · intro file hFile n hn
    exact (hNamedIn file hFile n hn).isComponent.isAbsolute

end Folder

namespace Corpus

open Folder (IsFilePath)

variable {root folder : Folder}
variable {path : Text}
variable {corpus : Corpus}

/- Names that a file system gives are found in their path. -/
theorem segments_ofComponents
    {ns : List Text}
    (hNames : ∀ n ∈ ns, Folder.IsEntryName n)
    (hNil : ns ≠ []) :
    DocPath.segments (FilePath.ofComponents ns) = ns :=
  List.splitOn_intercalate '/' (fun n hn => (hNames n hn).slash)
    hNil

theorem segments_injective :
    Function.Injective DocPath.segments := by
  intro p q h
  rw [← FilePath.ofSegments_segments p, h,
    FilePath.ofSegments_segments]

theorem fitsBelow_iff
    {d : Document}
    (hPath : IsFilePath d.path) :
    d.FitsBelow path ↔
      Text.byteLength (FilePath.join path d.path) ≤
        Folder.pathLimit := by
  have hNames :
      ∀ n ∈ DocPath.segments d.path, FilePath.IsComponent n := by
    intro n hn
    exact (hPath n hn).isComponent
  unfold Document.FitsBelow
  rw [FilePath.below_eq_join path hNames
      (List.splitOn_ne_nil '/' d.path),
    FilePath.ofComponents_eq, FilePath.ofSegments_segments]

/- A document is read from its own file. -/
theorem readDocument_file
    {d : Document}
    (hFits : d.FitsBelow path) :
    readDocument path d.file.1 d.file.2 = .ok d := by
  have hPath :
      FilePath.ofComponents (DocPath.segments d.path) = d.path :=
    FilePath.ofSegments_segments d.path
  have hShort := Nat.not_lt.mpr hFits
  simp [Document.file, readDocument, Content.readAt,
    Content.text?, hShort, hPath]

/- A document comes from a file that names it. -/
theorem file_of_readDocument
    {ns : List Text}
    {content : Content}
    {d : Document}
    (hNames : ∀ n ∈ ns, Folder.IsEntryName n)
    (hNil : ns ≠ [])
    (h : readDocument path ns content = .ok d) :
    d.file = (ns, content) ∧ d.FitsBelow path := by
  unfold readDocument Content.readAt at h
  split_ifs at h with hLong
  cases content with
  | binary octets => cases h
  | text t =>
      cases h
      unfold Document.FitsBelow Document.file
      rw [segments_ofComponents hNames hNil]
      exact ⟨rfl, Nat.not_lt.mp hLong⟩

------------------------------------------------------------
-- All Documents
------------------------------------------------------------

/- Distinct documents make up a corpus as they are. -/
theorem documents_ofList
    {ds : List Document}
    (hDistinct : (ds.map Document.path).Nodup) :
    (ofList ds).documents = ds := by
  have hFold :
      ∀ (ds : List Document) (c : Corpus),
        ((c.documents ++ ds).map Document.path).Nodup →
          (ds.foldl (fun c d => c.insert d.path d.text)
            c).documents = c.documents ++ ds := by
    intro ds
    induction ds with
    | nil =>
        intro c _
        rw [List.foldl_nil, List.append_nil]
    | cons d ds ih =>
        intro c hNodup
        have hNew : d.path ∉ c.documents.map Document.path := by
          rw [List.map_append, List.nodup_append] at hNodup
          intro hMem
          exact hNodup.2.2 _ hMem _ (by simp) rfl
        have hDocuments :
            (c.insert d.path d.text).documents =
              c.documents ++ [d] :=
          insertInto_of_not_mem hNew d.text
        rw [List.foldl_cons, ih, hDocuments, List.append_assoc,
          List.singleton_append]
        rwa [hDocuments, List.append_assoc,
          List.singleton_append]
  exact hFold ds empty (by simpa [empty] using hDistinct)

theorem ofList_documents (corpus : Corpus) :
    ofList corpus.documents = corpus :=
  ext (documents_ofList corpus.distinct)

/- Whether a walk from a path meets a document. -/
def isFound
    (path : Text)
    (names : List Text) : Bool :=
  Folder.isReached (Folder.opens path fun _ => false) names &&
    isDocument names

/- The documents that are met below a path, as files. -/
def found
    (path : Text)
    (folder : Folder) : List (List Text × Content) :=
  folder.files.filter (isFound path ·.1)

theorem filter_walkFrom
    (path : Text)
    (folder : Folder) :
    (folder.walkFrom path fun _ => false).filter
        (isDocument ·.1) =
      found path folder := by
  unfold Folder.walkFrom found isFound
  rw [Folder.walk_eq_filter, List.filter_filter]
  apply List.filter_congr
  intro file _
  exact Bool.and_comm _ _

/- A document is met where its file can be read. -/
theorem isFound_of_fitsBelow
    {d : Document}
    (hPath : IsFilePath d.path)
    (hFits : d.FitsBelow path)
    (hDocument : isDocument (DocPath.segments d.path) = true) :
    isFound path (DocPath.segments d.path) = true := by
  have hReached :=
    Folder.isReached_of_byteLength_le
      (fun n hn => (hPath n hn).isComponent.isAbsolute) hFits
  unfold isFound
  rw [hReached, hDocument]
  rfl

/- A corpus loads where its documents are all there is. -/
theorem load_eq_ok
    (hFolder : root.folderAt? path = some folder)
    (hFits : ∀ d ∈ corpus.documents, d.FitsBelow path)
    (hFound :
      found path folder = corpus.documents.map Document.file) :
    load root path = .ok corpus := by
  have hRead :
      ∀ ds : List Document,
        (∀ d ∈ ds, d.FitsBelow path) →
          (ds.map Document.file).mapM
              (fun file => readDocument path file.1 file.2) =
            .ok ds := by
    intro ds hDs
    induction ds with
    | nil => rfl
    | cons d ds ih =>
        rw [List.forall_mem_cons] at hDs
        rw [List.map_cons, List.mapM_cons, ih hDs.2,
          readDocument_file hDs.1]
        rfl
  rw [load, hFolder]
  dsimp only
  rw [filter_walkFrom, hFound, ← ofList_documents corpus]
  refine Eq.trans (congrArg (· >>= _) (hRead _ ?_)) ?_
  · rw [ofList_documents]
    exact hFits
  · simp [bind, Except.bind, pure, Except.pure, ofList_documents]

/- Documents that are read name the files they come from. -/
theorem map_file_of_mapM
    {files : List (List Text × Content)}
    {ds : List Document}
    (hFiles :
      ∀ file ∈ files,
        (∀ n ∈ file.1, Folder.IsEntryName n) ∧ file.1 ≠ [])
    (h :
      files.mapM
          (fun (ns, content) => readDocument path ns content) =
        .ok ds) :
    ds.map Document.file = files ∧
      ∀ d ∈ ds, d.FitsBelow path := by
  induction files generalizing ds with
  | nil =>
      cases h
      exact ⟨rfl, List.forall_mem_nil _⟩
  | cons file files ih =>
      rcases file with ⟨ns, content⟩
      rw [List.mapM_cons] at h
      cases hRead : readDocument path ns content with
      | error fault => simp [hRead, bind, Except.bind] at h
      | ok d =>
          cases hRest :
              files.mapM
                (fun (ns, content) =>
                  readDocument path ns content) with
          | error fault =>
              simp [hRead, hRest, bind, Except.bind] at h
          | ok ds' =>
              simp only [hRead, hRest, bind, Except.bind, pure,
                Except.pure, Except.ok.injEq] at h
              subst h
              rw [List.forall_mem_cons] at hFiles
              rcases hFiles with ⟨⟨hNames, hNil⟩, hOthers⟩
              rcases file_of_readDocument hNames hNil hRead with
                ⟨hFile, hFits⟩
              rcases ih hOthers hRest with ⟨hRests, hAllFit⟩
              rw [List.map_cons, hFile, hRests]
              exact ⟨rfl, List.forall_mem_cons.mpr
                ⟨hFits, hAllFit⟩⟩

theorem pairwise_found
    (path : Text)
    (hSorted : folder.Sorted) :
    (found path folder).Pairwise fun a b => a.1 < b.1 :=
  (Folder.pairwise_files hSorted).sublist List.filter_sublist

/- What is met below a path are documents. -/
theorem isDocument_of_found
    {ds : List Document}
    {d : Document}
    (hFound : found path folder = ds.map Document.file)
    (hd : d ∈ ds) :
    isDocument (DocPath.segments d.path) = true := by
  have hMem : d.file ∈ found path folder := by
    rw [hFound]
    exact List.mem_map_of_mem hd
  have hMet := (List.mem_filter.mp hMem).2
  unfold isFound at hMet
  exact (Bool.and_eq_true_iff.mp hMet).2

/- Files in order have distinct paths. -/
theorem nodup_of_pairwise_file
    {ds : List Document}
    (h :
      (ds.map Document.file).Pairwise fun a b => a.1 < b.1) :
    (ds.map Document.path).Nodup := by
  rw [List.pairwise_map] at h
  rw [List.Nodup, List.pairwise_map]
  refine h.imp ?_
  intro d e hLess hPath
  rw [Document.file, Document.file, hPath] at hLess
  exact List.lt_irrefl _ hLess

/- The documents of a corpus that loads are the files found. -/
theorem exists_folder_of_load
    (hSorted : root.Sorted)
    (hNamed : root.Named)
    (hLoad : load root path = .ok corpus) :
    ∃ folder,
      root.folderAt? path = some folder ∧
        folder.Sorted ∧ folder.Named ∧
        (∀ d ∈ corpus.documents, d.FitsBelow path) ∧
        found path folder =
          corpus.documents.map Document.file := by
  unfold load at hLoad
  cases hFolder : root.folderAt? path with
  | none => simp [hFolder] at hLoad
  | some folder =>
      rw [hFolder] at hLoad
      dsimp only at hLoad
      rcases Folder.enters_of_folderAt? hFolder with ⟨-, -, hGet⟩
      have hSortedIn := hSorted.get? hGet
      have hNamedIn := hNamed.get? hSorted hGet
      cases hRead :
          (found path folder).mapM
            (fun (ns, content) =>
              readDocument path ns content) with
      | error fault =>
          rw [filter_walkFrom, hRead] at hLoad
          cases hLoad
      | ok ds =>
          rw [filter_walkFrom, hRead] at hLoad
          cases hLoad
          have hNames :
              ∀ file ∈ found path folder,
                (∀ n ∈ file.1, Folder.IsEntryName n) ∧
                  file.1 ≠ [] := by
            intro file hFile
            have hMem := List.mem_of_mem_filter hFile
            exact ⟨hNamedIn file hMem,
              Folder.ne_nil_of_mem_files hMem⟩
          rcases map_file_of_mapM hNames hRead with
            ⟨hFiles, hFits⟩
          have hPairs :
              (ds.map Document.file).Pairwise
                fun a b => a.1 < b.1 := by
            rw [hFiles]
            exact pairwise_found path hSortedIn
          have hDistinct := nodup_of_pairwise_file hPairs
          refine ⟨folder, rfl, hSortedIn, hNamedIn, ?_⟩
          rw [documents_ofList hDistinct, hFiles]
          exact ⟨hFits, rfl⟩

/- Every document of a corpus that loads has a file's path. -/
theorem isFilePath_of_load
    (hSorted : root.Sorted)
    (hNamed : root.Named)
    (hLoad : load root path = .ok corpus) :
    ∀ d ∈ corpus.documents, IsFilePath d.path := by
  rcases exists_folder_of_load hSorted hNamed hLoad with
    ⟨folder, -, -, hNamedIn, -, hFound⟩
  intro d hd
  have hMem : d.file ∈ found path folder := by
    rw [hFound]
    exact List.mem_map_of_mem hd
  exact hNamedIn d.file (List.mem_of_mem_filter hMem)

------------------------------------------------------------
-- The Order Of Documents
------------------------------------------------------------

/- The components of a path, as the octets that a disk sees. -/
def octets (path : Text) : List Octets :=
  (DocPath.segments path).map Text.toOctets

/- A path comes first where its octets do. -/
theorem octets_lt_octets
    {p q : Text}
    (h : DocPath.segments p < DocPath.segments q) :
    octets p < octets q :=
  List.map_lt (fun _ _ hLess => Text.toOctets_lt_toOctets hLess) h

/- Documents come in the order of the octets of their paths. -/
theorem pairwise_octets_of_load
    (hSorted : root.Sorted)
    (hNamed : root.Named)
    (hLoad : load root path = .ok corpus) :
    (corpus.paths.map octets).Pairwise (· < ·) := by
  rcases exists_folder_of_load hSorted hNamed hLoad with
    ⟨folder, -, hSortedIn, -, -, hFound⟩
  have hOrder := pairwise_found path hSortedIn
  rw [hFound, List.pairwise_map] at hOrder
  rw [paths, List.map_map, List.pairwise_map]
  exact hOrder.imp octets_lt_octets

end Corpus

end SourceDocs
