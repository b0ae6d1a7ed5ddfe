import Mathlib.Data.List.Dedup
import Mathlib.Data.List.Induction
import SourceDocs.Corpus.Basic

/-
  A corpus as a map that keeps the order of insertion.

  After any insertions the paths stand in the order in which
  they first came up, and at each of them is the text that
  was inserted last.

  Key definitions include:
    * `SourceDocs.Corpus.ComesBefore`
    * `SourceDocs.Corpus.IsLastAt`

  Main results:
    * `SourceDocs.Corpus.pairwise_paths_ofList`
    * `SourceDocs.Corpus.size_ofList`
    * `SourceDocs.Corpus.get?_ofList_eq_some_iff`
-/

------------------------------------------------------------
-- One Insertion
------------------------------------------------------------

namespace SourceDocs

namespace Corpus

theorem map_path_insertInto
    (path text : Text)
    (ds : List Document) :
    (insertInto path text ds).map Document.path =
      if path ∈ ds.map Document.path then
        ds.map Document.path
      else ds.map Document.path ++ [path] := by
  induction ds with
  | nil => rfl
  | cons d ds ih =>
      by_cases hd : d.path = path
      · simp [insertInto, hd]
      · rw [insertInto, if_neg hd, List.map_cons, ih,
          List.map_cons]
        simp only [List.mem_cons, Ne.symm hd, false_or]
        split_ifs
        · rfl
        · rfl

theorem find?_insertInto
    (path text other : Text)
    (ds : List Document) :
    (insertInto path text ds).find? (·.path == other) =
      if path = other then some ⟨path, text⟩
      else ds.find? (·.path == other) := by
  have hHead :
      ∀ es : List Document,
        (⟨path, text⟩ :: es : List Document).find?
            (·.path == other) =
          if path = other then some ⟨path, text⟩
          else es.find? (·.path == other) := by
    intro es
    split_ifs with hOther
    · exact List.find?_cons_of_pos (by simpa using hOther)
    · exact List.find?_cons_of_neg (by simpa using hOther)
  induction ds with
  | nil => exact hHead []
  | cons d ds ih =>
      by_cases hd : d.path = path
      · rw [insertInto, if_pos hd, hHead]
        split_ifs with hOther
        · rfl
        · rw [List.find?_cons_of_neg]
          simpa [hd] using hOther
      · rw [insertInto, if_neg hd]
        by_cases hOther : d.path = other
        · have hNe : path ≠ other := fun hEq =>
            hd (hOther.trans hEq.symm)
          rw [if_neg hNe,
            List.find?_cons_of_pos (by simpa using hOther),
            List.find?_cons_of_pos (by simpa using hOther)]
        · rw [List.find?_cons_of_neg (by simpa using hOther), ih,
            List.find?_cons_of_neg (by simpa using hOther)]

/- A document at a new path comes behind the others. -/
theorem insertInto_of_not_mem
    {ds : List Document}
    {path : Text}
    (hNew : path ∉ ds.map Document.path)
    (text : Text) :
    insertInto path text ds = ds ++ [⟨path, text⟩] := by
  induction ds with
  | nil => rfl
  | cons d ds ih =>
      rw [List.map_cons, List.mem_cons, not_or] at hNew
      rw [insertInto, if_neg (Ne.symm hNew.1), ih hNew.2,
        List.cons_append]

/- One at a path that is there changes the text in its place. -/
theorem insertInto_eq_modify
    {ds : List Document}
    {path : Text}
    {place : Nat}
    (hDistinct : (ds.map Document.path).Nodup)
    (hPlace : (ds.map Document.path)[place]? = some path)
    (text : Text) :
    insertInto path text ds =
      ds.modify place fun d => { d with text := text } := by
  induction ds generalizing place with
  | nil => simp at hPlace
  | cons d ds ih =>
      rw [List.map_cons, List.nodup_cons] at hDistinct
      cases place with
      | zero =>
          rw [List.map_cons, List.getElem?_cons_zero,
            Option.some.injEq] at hPlace
          subst hPlace
          rw [insertInto, if_pos rfl, List.modify_zero_cons]
      | succ place =>
          rw [List.map_cons, List.getElem?_cons_succ] at hPlace
          have hNe : d.path ≠ path := by
            rintro rfl
            exact hDistinct.1 (List.mem_of_getElem? hPlace)
          rw [insertInto, if_neg hNe, ih hDistinct.2 hPlace,
            List.modify_succ_cons]

/- Inserting adds a path behind the others, if it is new. -/
theorem paths_insert
    (corpus : Corpus)
    (path text : Text) :
    (corpus.insert path text).paths =
      if path ∈ corpus.paths then corpus.paths
      else corpus.paths ++ [path] :=
  map_path_insertInto path text corpus.documents

/- Inserting changes the text at one path. -/
theorem get?_insert
    (corpus : Corpus)
    (path text other : Text) :
    (corpus.insert path text).get? other =
      if path = other then some text
      else corpus.get? other := by
  rw [get?, insert, find?_insertInto, get?]
  split_ifs
  · rfl
  · rfl

theorem ofList_concat
    (ds : List Document)
    (d : Document) :
    ofList (ds ++ [d]) =
      (ofList ds).insert d.path d.text := by
  rw [ofList, List.foldl_append]
  rfl

------------------------------------------------------------
-- Paths In Order
------------------------------------------------------------

/- Whether a path is inserted for the first time before another. -/
def ComesBefore
    (ds : List Document)
    (path other : Text) : Prop :=
  (ds.map Document.path).idxOf path <
    (ds.map Document.path).idxOf other

instance (ds : List Document) (path other : Text) :
    Decidable (ComesBefore ds path other) :=
  inferInstanceAs (Decidable (_ < _))

theorem mem_paths_ofList_iff
    {ds : List Document}
    {path : Text} :
    path ∈ (ofList ds).paths ↔ path ∈ ds.map Document.path := by
  induction ds using List.reverseRecOn with
  | nil => exact Iff.rfl
  | append_singleton ds d ih =>
      rw [ofList_concat, paths_insert, List.map_append,
        List.mem_append, ← ih]
      split_ifs with hMem
      · refine ⟨Or.inl, fun h => h.elim id fun hd => ?_⟩
        rwa [List.mem_singleton.mp hd]
      · rw [List.mem_append]
        rfl

/- Later insertions do not change the order so far. -/
theorem ComesBefore.concat
    {ds : List Document}
    {path other : Text}
    (hBefore : ComesBefore ds path other)
    (hPath : path ∈ ds.map Document.path)
    (hOther : other ∈ ds.map Document.path)
    (d : Document) :
    ComesBefore (ds ++ [d]) path other := by
  unfold ComesBefore at hBefore ⊢
  rwa [List.map_append, List.idxOf_append, List.idxOf_append,
    if_pos hPath, if_pos hOther]

/- A new path comes behind all that were there. -/
theorem comesBefore_new
    {ds : List Document}
    {path : Text}
    {d : Document}
    (hPath : path ∈ ds.map Document.path)
    (hNew : d.path ∉ ds.map Document.path) :
    ComesBefore (ds ++ [d]) path d.path := by
  unfold ComesBefore
  rw [List.map_append, List.idxOf_append, List.idxOf_append,
    if_pos hPath, if_neg hNew]
  exact Nat.lt_of_lt_of_le (List.idxOf_lt_length_iff.mpr hPath)
    (Nat.le_add_left _ _)

/- The paths stand in the order of their first insertion. -/
theorem pairwise_paths_ofList (ds : List Document) :
    (ofList ds).paths.Pairwise (ComesBefore ds) := by
  induction ds using List.reverseRecOn with
  | nil => exact List.Pairwise.nil
  | append_singleton ds d ih =>
      have hKept :
          (ofList ds).paths.Pairwise (ComesBefore (ds ++ [d])) := by
        refine ih.imp_of_mem fun hPath hOther hBefore => ?_
        exact hBefore.concat (mem_paths_ofList_iff.mp hPath)
          (mem_paths_ofList_iff.mp hOther) d
      rw [ofList_concat, paths_insert]
      split_ifs with hMem
      · exact hKept
      · rw [mem_paths_ofList_iff] at hMem
        refine List.pairwise_append.mpr
          ⟨hKept, List.pairwise_singleton _ _, ?_⟩
        intro path hPath other hOther
        rw [List.mem_singleton.mp hOther]
        exact comesBefore_new (mem_paths_ofList_iff.mp hPath) hMem

/- There are as many documents as paths that were inserted. -/
theorem size_ofList (ds : List Document) :
    (ofList ds).size = (ds.map Document.path).dedup.length := by
  have hPerm :
      (ofList ds).paths.Perm (ds.map Document.path).dedup := by
    refine (List.perm_ext_iff_of_nodup (ofList ds).distinct
      (List.nodup_dedup _)).mpr fun path => ?_
    rw [List.mem_dedup]
    exact mem_paths_ofList_iff
  rw [← hPerm.length_eq, paths, List.length_map, size]

------------------------------------------------------------
-- Texts
------------------------------------------------------------

/- Whether a text is the last one inserted at a path. -/
def IsLastAt
    (ds : List Document)
    (path text : Text) : Prop :=
  ∃ front back, ds = front ++ ⟨path, text⟩ :: back ∧
    path ∉ back.map Document.path

theorem isLastAt_concat_iff
    {ds : List Document}
    {d : Document}
    {path text : Text} :
    IsLastAt (ds ++ [d]) path text ↔
      d = ⟨path, text⟩ ∨
        d.path ≠ path ∧ IsLastAt ds path text := by
  constructor
  · rintro ⟨front, back, hEq, hBack⟩
    rcases List.eq_nil_or_concat' back with rfl | ⟨back, e, rfl⟩
    · left
      exact (List.append_singleton_inj.mp hEq).2
    · right
      rw [← List.cons_append, ← List.append_assoc] at hEq
      rcases List.append_singleton_inj.mp hEq with ⟨hDs, rfl⟩
      rw [List.map_append, List.mem_append, not_or] at hBack
      refine ⟨fun hPath => hBack.2 ?_, front, back, hDs, hBack.1⟩
      rw [← hPath]
      exact List.mem_singleton_self _
  · rintro (rfl | ⟨hPath, front, back, rfl, hBack⟩)
    · exact ⟨ds, [], rfl, List.not_mem_nil⟩
    · refine ⟨front, back ++ [d], by simp, ?_⟩
      rw [List.map_append, List.mem_append, not_or]
      refine ⟨hBack, fun hMem => hPath ?_⟩
      exact (List.mem_singleton.mp hMem).symm

/- At a path is the text that was inserted there last. -/
theorem get?_ofList_eq_some_iff
    {ds : List Document}
    {path text : Text} :
    (ofList ds).get? path = some text ↔
      IsLastAt ds path text := by
  induction ds using List.reverseRecOn with
  | nil =>
      refine ⟨nofun, ?_⟩
      rintro ⟨front, back, hEq, -⟩
      simp at hEq
  | append_singleton ds d ih =>
      rw [ofList_concat, get?_insert, isLastAt_concat_iff, ← ih]
      split_ifs with hPath
      · rw [Option.some.injEq]
        constructor
        · rintro rfl
          left
          rw [← hPath]
        · rintro (rfl | ⟨hNe, -⟩)
          · rfl
          · exact absurd hPath hNe
      · refine ⟨fun h => Or.inr ⟨hPath, h⟩, ?_⟩
        rintro (rfl | ⟨-, h⟩)
        · exact absurd rfl hPath
        · exact h

end Corpus

end SourceDocs
