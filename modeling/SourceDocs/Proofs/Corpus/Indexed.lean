import SourceDocs.Corpus.Indexed
import SourceDocs.Proofs.Corpus.Insertions
import SourceDocs.Proofs.Corpus.Lookup

/-
  The index of a corpus, in step with its documents.

  Inserting keeps the index and the documents in step: the
  index knows the paths that there are, and for each of them
  its place. So the two together are the corpus that finds
  its documents by going through them, and both are a map
  that keeps the order of insertion.

  Key definitions include:
    * `SourceDocs.IndexedCorpus.IsInStep`
    * `SourceDocs.IndexedCorpus.Refines`

  Main results:
    * `SourceDocs.IndexedCorpus.IsInStep.insert`
    * `SourceDocs.IndexedCorpus.refines_ofList`
    * `SourceDocs.IndexedCorpus.ofList_orderedMap`
-/

------------------------------------------------------------
-- Index And Documents In Step
------------------------------------------------------------

namespace SourceDocs

namespace IndexedCorpus

/- Whether the index gives each path its place, and no more. -/
def IsInStep (corpus : IndexedCorpus) : Prop :=
  ∀ (path : Text) (place : Nat),
    corpus.index[path]? = some place ↔
      corpus.paths[place]? = some path

theorem isInStep_empty : IsInStep empty := by
  intro path place
  simp [empty, paths]

variable {corpus : IndexedCorpus}

/- A path has one place only. -/
theorem IsInStep.nodup
    (hStep : corpus.IsInStep) : corpus.paths.Nodup := by
  rw [List.nodup_iff_getElem?_ne_getElem?]
  intro i j hLt hSize hEq
  have hPath := List.getElem?_eq_getElem hSize
  have hFirst := (hStep _ i).mpr (hEq.trans hPath)
  have hSecond := (hStep _ j).mpr hPath
  rw [hFirst, Option.some.injEq] at hSecond
  omega

theorem IsInStep.index_eq_none_iff
    (hStep : corpus.IsInStep)
    {path : Text} :
    corpus.index[path]? = none ↔ path ∉ corpus.paths := by
  rw [List.mem_iff_getElem?, Option.eq_none_iff_forall_ne_some,
    not_exists]
  simp only [hStep path, ne_eq]

theorem getElem?_paths
    (corpus : IndexedCorpus)
    (place : Nat) :
    corpus.paths[place]? =
      corpus.documents[place]?.map Document.path := by
  rw [paths, List.getElem?_map, Array.getElem?_toList]

/- There is a document in every place that the index gives. -/
theorem IsInStep.slot?_eq
    (hStep : corpus.IsInStep)
    (path : Text) :
    corpus.slot? path = corpus.index[path]? := by
  rw [slot?]
  cases hIndex : corpus.index[path]? with
  | none => rfl
  | some place =>
      have hPath := (hStep path place).mp hIndex
      rw [getElem?_paths, Option.map_eq_some_iff] at hPath
      rcases hPath with ⟨d, hDocument, -⟩
      have hSize := (Array.getElem?_eq_some_iff.mp hDocument).1
      rw [Option.filter_some, if_pos (decide_eq_true hSize)]

------------------------------------------------------------
-- Inserting
------------------------------------------------------------

/- The places of paths with one more path at the end. -/
theorem getElem?_concat_eq_some_iff
    {ps : List Text}
    {p other : Text}
    {place : Nat} :
    (ps ++ [p])[place]? = some other ↔
      ps[place]? = some other ∨ place = ps.length ∧ p = other := by
  rcases Nat.lt_trichotomy place ps.length with hLt | rfl | hGt
  · rw [List.getElem?_append_left hLt]
    simp [Nat.ne_of_lt hLt]
  · rw [List.getElem?_concat_length]
    simp
  · have hLong : (ps ++ [p]).length ≤ place := by
      rw [List.length_append, List.length_singleton]
      omega
    rw [List.getElem?_eq_none hLong,
      List.getElem?_eq_none (Nat.le_of_lt hGt)]
    simp [Nat.ne_of_gt hGt]

/- Where a path is known the text in its place is changed. -/
theorem insert_of_slot
    {path : Text}
    {place : Nat}
    (hSlot : corpus.slot? path = some place)
    (text : Text) :
    corpus.insert path text =
      { corpus with
        documents :=
          corpus.documents.modify place
            fun d => { d with text := text } } := by
  rw [insert, hSlot]

/- Where it is not there is a document more. -/
theorem insert_of_no_slot
    {path : Text}
    (hSlot : corpus.slot? path = none)
    (text : Text) :
    corpus.insert path text =
      ⟨corpus.documents.push ⟨path, text⟩,
        corpus.index.insert path corpus.documents.size⟩ := by
  rw [insert, hSlot]

/- The documents are those of the corpus without an index. -/
theorem IsInStep.documents_insert
    (hStep : corpus.IsInStep)
    (path text : Text) :
    (corpus.insert path text).documents.toList =
      Corpus.insertInto path text corpus.documents.toList := by
  cases hIndex : corpus.index[path]? with
  | some place =>
      rw [insert_of_slot ((hStep.slot?_eq path).trans hIndex),
        Array.toList_modify]
      exact (Corpus.insertInto_eq_modify hStep.nodup
        ((hStep path place).mp hIndex) text).symm
  | none =>
      rw [insert_of_no_slot ((hStep.slot?_eq path).trans hIndex),
        Array.toList_push]
      exact (Corpus.insertInto_of_not_mem
        (hStep.index_eq_none_iff.mp hIndex) text).symm

/- Inserting keeps the index in step with the documents. -/
theorem IsInStep.insert
    (hStep : corpus.IsInStep)
    (path text : Text) :
    (corpus.insert path text).IsInStep := by
  have hPaths :
      (corpus.insert path text).paths =
        if path ∈ corpus.paths then corpus.paths
        else corpus.paths ++ [path] := by
    rw [paths, hStep.documents_insert]
    exact Corpus.map_path_insertInto path text _
  intro other place
  cases hIndex : corpus.index[path]? with
  | some known =>
      have hMem : path ∈ corpus.paths :=
        List.mem_of_getElem? ((hStep path known).mp hIndex)
      rw [hPaths, if_pos hMem,
        insert_of_slot ((hStep.slot?_eq path).trans hIndex)]
      exact hStep other place
  | none =>
      have hNew := hStep.index_eq_none_iff.mp hIndex
      have hSize : corpus.documents.size = corpus.paths.length := by
        simp [paths]
      rw [hPaths, if_neg hNew,
        insert_of_no_slot ((hStep.slot?_eq path).trans hIndex),
        Std.HashMap.getElem?_insert, hSize]
      rw [getElem?_concat_eq_some_iff, ← hStep other place]
      by_cases hOther : path = other
      · subst hOther
        rw [if_pos (beq_self_eq_true path), Option.some.injEq,
          hIndex]
        simp [eq_comm]
      · have hNe : ¬ (path == other) = true := by
          simpa using hOther
        rw [if_neg hNe]
        simp [hOther]

/- After any insertions the index is in step. -/
theorem isInStep_ofList (ds : List Document) :
    (ofList ds).IsInStep ∧
      (ofList ds).documents.toList =
        (Corpus.ofList ds).documents := by
  induction ds using List.reverseRecOn with
  | nil => exact ⟨isInStep_empty, rfl⟩
  | append_singleton ds d ih =>
      rcases ih with ⟨hStep, hDocuments⟩
      have hConcat :
          ofList (ds ++ [d]) =
            (ofList ds).insert d.path d.text := by
        rw [ofList, List.foldl_append]
        rfl
      rw [hConcat, Corpus.ofList_concat]
      refine ⟨hStep.insert d.path d.text, ?_⟩
      rw [hStep.documents_insert, hDocuments]
      rfl

------------------------------------------------------------
-- The Corpus Behind The Index
------------------------------------------------------------

/-
  A corpus with an index answers like one without: the same
  documents, their places, texts and number.
-/
structure Refines
    (indexed : IndexedCorpus)
    (corpus : Corpus) : Prop where
  documents : indexed.documents.toList = corpus.documents
  place : ∀ path : Text,
    indexed.index[path]? = corpus.position? path
  get? : ∀ path, indexed.get? path = corpus.get? path
  contains : ∀ path,
    indexed.contains path = corpus.contains path
  size : indexed.size = corpus.size

theorem IsInStep.refines
    {indexed : IndexedCorpus}
    {corpus : Corpus}
    (hStep : indexed.IsInStep)
    (hDocuments : indexed.documents.toList = corpus.documents) :
    indexed.Refines corpus := by
  have hPaths : indexed.paths = corpus.paths :=
    congrArg (List.map Document.path) hDocuments
  refine ⟨hDocuments, fun path => ?_, fun path => ?_,
    fun path => ?_, ?_⟩
  · refine Option.ext fun place => ?_
    rw [Corpus.position?_eq_some_iff, ← hPaths]
    exact hStep path place
  · rw [IndexedCorpus.get?]
    cases hIndex : indexed.index[path]? with
    | none =>
        have hNew := hStep.index_eq_none_iff.mp hIndex
        rw [hPaths] at hNew
        exact (Corpus.get?_eq_none_iff.mpr hNew).symm
    | some place =>
        have hPath := (hStep path place).mp hIndex
        rw [getElem?_paths, Option.map_eq_some_iff] at hPath
        rcases hPath with ⟨d, hPlace, rfl⟩
        rw [Option.bind_some, hPlace, Option.map_some]
        have hMem : d ∈ corpus.documents := by
          rw [← hDocuments]
          exact Array.mem_toList_iff.mpr
            (Array.mem_of_getElem? hPlace)
        exact (Corpus.get?_eq_some_of_mem hMem).symm
  · rw [IndexedCorpus.contains, Bool.eq_iff_iff,
      Corpus.contains_iff, ← hPaths]
    rw [Std.HashMap.contains_eq_isSome_getElem?,
      Option.isSome_iff_ne_none, Ne, hStep.index_eq_none_iff,
      not_not]
  · rw [IndexedCorpus.size, Corpus.size, ← hDocuments,
      Array.length_toList]

theorem refines_ofList (ds : List Document) :
    (ofList ds).Refines (Corpus.ofList ds) :=
  (isInStep_ofList ds).1.refines (isInStep_ofList ds).2

/- Going through the documents finds the same ones changed. -/
theorem Refines.changedFrom_eq
    {indexed older : IndexedCorpus}
    {corpus olderCorpus : Corpus}
    (h : indexed.Refines corpus)
    (hOlder : older.Refines olderCorpus) :
    indexed.changedFrom older =
      corpus.changedFrom olderCorpus := by
  rw [changedFrom, h.documents, Corpus.changedFrom]
  simp only [hOlder.get?]

end IndexedCorpus

------------------------------------------------------------
-- Ordered Maps
------------------------------------------------------------

namespace Corpus

/- A document has changed if its path has not that text. -/
theorem mem_changedFrom_ofList_iff
    {ds older : List Document}
    {d : Document} :
    d ∈ (ofList ds).changedFrom (ofList older) ↔
      d ∈ (ofList ds).documents ∧
        (d.path ∉ older.map Document.path ∨
          ∃ text, IsLastAt older d.path text ∧
            text ≠ d.text) := by
  have hOther :
      ∀ found : Option Text,
        found ≠ some d.text ↔
          found = none ∨
            ∃ text, found = some text ∧ text ≠ d.text := by
    intro found
    cases found with
    | none => simp
    | some text => simp
  rw [mem_changedFrom_iff, hOther,
    get?_eq_none_iff, mem_paths_ofList_iff]
  simp only [get?_ofList_eq_some_iff]

end Corpus

namespace IndexedCorpus

/-
  After any insertions the paths are distinct and stand in
  the order of their first insertion, the index has them and
  no other ones, each with its place, and the text at a path
  is the one inserted last. A document has changed from
  another such corpus if its path is not there or has another
  text. All of this is so with and without an index.
-/
theorem ofList_orderedMap :
    (∀ ds : List Document,
      let corpus := ofList ds
      corpus.paths.Nodup ∧
      corpus.paths.Pairwise (Corpus.ComesBefore ds) ∧
      (∀ path,
        path ∈ corpus.paths ↔ path ∈ ds.map Document.path) ∧
      (∀ (path : Text) (place : Nat),
        corpus.index[path]? = some place ↔
          corpus.paths[place]? = some path) ∧
      (∀ path text,
        corpus.get? path = some text ↔
          Corpus.IsLastAt ds path text) ∧
      (∀ path,
        corpus.get? path = none ↔
          path ∉ ds.map Document.path) ∧
      (∀ path,
        corpus.contains path = true ↔
          ∃ text, corpus.get? path = some text) ∧
      corpus.size = (ds.map Document.path).dedup.length ∧
      corpus.Refines (Corpus.ofList ds)) ∧
    ∀ ds older : List Document,
      let corpus := ofList ds
      let changed := corpus.changedFrom (ofList older)
      changed.Sublist corpus.documents.toList ∧
      (∀ d,
        d ∈ changed ↔
          d ∈ corpus.documents ∧
            (d.path ∉ older.map Document.path ∨
              ∃ text, Corpus.IsLastAt older d.path text ∧
                text ≠ d.text)) ∧
      changed =
        (Corpus.ofList ds).changedFrom (Corpus.ofList older) := by
  refine ⟨fun ds => ?_, fun ds older => ?_⟩
  · have hStep := (isInStep_ofList ds).1
    have hRefines := refines_ofList ds
    have hPaths : (ofList ds).paths = (Corpus.ofList ds).paths :=
      congrArg (List.map Document.path) hRefines.documents
    refine ⟨hStep.nodup, ?_, fun path => ?_, hStep,
      fun path text => ?_, fun path => ?_, fun path => ?_, ?_,
      hRefines⟩
    · rw [hPaths]
      exact Corpus.pairwise_paths_ofList ds
    · rw [hPaths]
      exact Corpus.mem_paths_ofList_iff
    · rw [hRefines.get?]
      exact Corpus.get?_ofList_eq_some_iff
    · rw [hRefines.get?, Corpus.get?_eq_none_iff,
        Corpus.mem_paths_ofList_iff]
    · rw [hRefines.contains, hRefines.get?,
        Corpus.contains_iff, ← Option.isSome_iff_exists,
        Option.isSome_iff_ne_none, Ne, Corpus.get?_eq_none_iff,
        not_not]
    · rw [hRefines.size]
      exact Corpus.size_ofList ds
  · have hRefines := refines_ofList ds
    have hSame := hRefines.changedFrom_eq (refines_ofList older)
    refine ⟨List.filter_sublist, fun d => ?_, hSame⟩
    rw [hSame, Corpus.mem_changedFrom_ofList_iff, ← hRefines.documents,
      Array.mem_toList_iff]

end IndexedCorpus

end SourceDocs
