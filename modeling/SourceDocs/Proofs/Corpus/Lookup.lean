import Mathlib.Data.List.Nodup
import SourceDocs.LinkRepair.Documents

/-
  Looking documents up in a corpus and in the repaired one.

  Main results:
    * `SourceDocs.Corpus.get?_eq_some_of_mem`
    * `SourceDocs.Corpus.get?_eq_none_iff`
    * `SourceDocs.Corpus.get?_repair`
    * `SourceDocs.Corpus.lookupAliased?_congr`
-/

namespace SourceDocs

namespace Corpus

/- A document is found at its path. -/
theorem get?_eq_some_of_mem
    {corpus : Corpus}
    {d : Document}
    (hMem : d ∈ corpus.documents) :
    corpus.get? d.path = some d.text := by
  rcases corpus with ⟨documents, distinct⟩
  unfold get?
  dsimp only at hMem ⊢
  induction documents with
  | nil => simp at hMem
  | cons e es ih =>
      rw [List.map_cons, List.nodup_cons] at distinct
      rcases List.mem_cons.mp hMem with rfl | hMem
      · simp
      · have hNe : e.path ≠ d.path := fun hEq =>
          distinct.1 (hEq ▸ List.mem_map_of_mem hMem)
        rw [List.find?_cons_of_neg (by simpa using hNe)]
        exact ih distinct.2 hMem

/- No text is found just where there is no document. -/
theorem get?_eq_none_iff
    {corpus : Corpus}
    {path : Text} :
    corpus.get? path = none ↔ path ∉ corpus.paths := by
  rw [get?, Option.map_eq_none_iff, List.find?_eq_none, paths,
    List.mem_map]
  simp

theorem contains_iff
    {corpus : Corpus}
    {path : Text} :
    corpus.contains path = true ↔ path ∈ corpus.paths := by
  rw [contains, List.contains_iff_mem]

/- The place of a path is where it stands. -/
theorem position?_eq_some_iff
    {corpus : Corpus}
    {path : Text}
    {place : Nat} :
    corpus.position? path = some place ↔
      corpus.paths[place]? = some path := by
  rw [position?, List.idxOf?_eq_some_iff,
    List.getElem?_eq_some_iff]
  constructor
  · rintro ⟨hSize, hPath, -⟩
    exact ⟨hSize, hPath⟩
  · rintro ⟨hSize, hPath⟩
    refine ⟨hSize, hPath, fun other hLt hOther => ?_⟩
    have hDistinct : corpus.paths.Nodup := corpus.distinct
    have hSame :=
      (List.Nodup.getElem_inj_iff hDistinct).mp
        (hOther.trans hPath.symm)
    omega

theorem mem_changedFrom_iff
    {older newer : Corpus}
    {d : Document} :
    d ∈ newer.changedFrom older ↔
      d ∈ newer.documents ∧ older.get? d.path ≠ some d.text := by
  simp [changedFrom]

theorem mem_repair_iff
    {corpus : Corpus}
    {sources : Option SourceRepair}
    {d' : Document} :
    d' ∈ (corpus.repair sources).documents ↔
      ∃ d ∈ corpus.documents, d' = ⟨d.path,
        (LinkRepair.ofCorpus corpus sources).repairDocument d⟩ := by
  simp only [repair, mapTexts, List.mem_map, eq_comm]

@[simp] theorem paths_repair
    (corpus : Corpus)
    (sources : Option SourceRepair) :
    (corpus.repair sources).paths = corpus.paths := by
  simp [repair, mapTexts, paths, List.map_map,
    Function.comp_def]

/- A document is found repaired at its path. -/
theorem get?_repair
    {corpus : Corpus}
    {sources : Option SourceRepair}
    {d : Document}
    (hMem : d ∈ corpus.documents) :
    (corpus.repair sources).get? d.path =
      some ((LinkRepair.ofCorpus corpus sources).repairDocument
        d) :=
  get?_eq_some_of_mem (mem_repair_iff.mpr ⟨d, hMem, rfl⟩)

/-
  Looking up sees which paths there are, and which of them
  comes first with a file name.
-/
theorem lookupAliased?_congr
    {a b : Corpus}
    (hContains : ∀ path, a.contains path = b.contains path)
    (hNames :
      ∀ path,
        a.byFileName? (DocPath.fileName path) =
          b.byFileName? (DocPath.fileName path))
    (candidate written : Text) :
    a.lookupAliased? candidate written =
      b.lookupAliased? candidate written := by
  have hContainsFun : a.contains = b.contains :=
    funext hContains
  have hLookup : a.lookup? = b.lookup? := by
    funext candidate written
    rw [lookup?, lookup?, collapsed?, collapsed?, hNames,
      hContainsFun]
  rw [lookupAliased?, lookupAliased?, hLookup]

/- So it is the same where the paths are. -/
theorem lookupAliased?_eq_of_paths_eq
    {a b : Corpus}
    (hPaths : a.paths = b.paths)
    (candidate written : Text) :
    a.lookupAliased? candidate written =
      b.lookupAliased? candidate written := by
  refine lookupAliased?_congr (fun path => ?_) (fun path => ?_)
    candidate written
  · rw [contains, contains, hPaths]
  · rw [byFileName?, byFileName?, hPaths]

end Corpus

end SourceDocs
