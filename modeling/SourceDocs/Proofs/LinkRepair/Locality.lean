import SourceDocs.Proofs.LinkRepair.Agreement

/-
  The repair of a document sees of all others their paths
  and their headings only.

  Key definitions include:
    * `SourceDocs.Corpus.outline`

  Main results:
    * `SourceDocs.Inventory.ofCorpus_eq_of_outline_eq`
    * `SourceDocs.LinkRepair.agrees_of_outline_eq`
    * `SourceDocs.Corpus.get?_repair_of_outline_eq`
-/

------------------------------------------------------------
-- Outlines
------------------------------------------------------------

namespace SourceDocs

/- The paths of a corpus, in order, with their headings. -/
def Corpus.outline
    (corpus : Corpus) : List (Text × List Text) :=
  corpus.documents.map fun d => (d.path, Heading.all d.text)

theorem Corpus.paths_eq_of_outline_eq
    {a b : Corpus}
    (hOutline : a.outline = b.outline) : a.paths = b.paths := by
  have hPaths : ∀ corpus : Corpus,
      corpus.paths = corpus.outline.map Prod.fst := by
    intro corpus
    rw [outline, List.map_map]
    rfl
  rw [hPaths, hPaths, hOutline]

namespace Inventory

/- Adds a document of which the headings are known only. -/
def addHeadings
    (inventory : Inventory)
    (entry : Text × List Text) : Inventory :=
  let anchors := entry.2.map Anchor.ofHeading
  ⟨inventory.anchors ++ [(entry.1, anchors)],
    anchors.foldl (enterAnchor entry.1) inventory.entities⟩

/- The inventory is taken of the outline. -/
theorem ofCorpus_eq_foldl_outline
    (corpus : Corpus) :
    ofCorpus corpus =
      corpus.outline.foldl addHeadings ⟨[], []⟩ := by
  rw [Corpus.outline, List.foldl_map]
  rfl

theorem ofCorpus_eq_of_outline_eq
    {a b : Corpus}
    (hOutline : a.outline = b.outline) :
    ofCorpus a = ofCorpus b := by
  rw [ofCorpus_eq_foldl_outline, ofCorpus_eq_foldl_outline,
    hOutline]

end Inventory

------------------------------------------------------------
-- Repair By Outlines
------------------------------------------------------------

/- Corpora with one outline answer repair alike. -/
theorem LinkRepair.agrees_of_outline_eq
    {a b : Corpus}
    (hOutline : a.outline = b.outline)
    (sources : Option SourceRepair) :
    (ofCorpus a sources).Agrees (ofCorpus b sources) where
  documents :=
    Corpus.lookupAliased?_eq_of_paths_eq
      (Corpus.paths_eq_of_outline_eq hOutline)
  anchors path := by
    simp only [ofCorpus,
      Inventory.ofCorpus_eq_of_outline_eq hOutline]
  entities entity := by
    simp only [ofCorpus,
      Inventory.ofCorpus_eq_of_outline_eq hOutline]
  sources := rfl

namespace Corpus

/-
  Locality: in two corpora with the same paths in the same
  order and the same headings at each, a document that both
  have is repaired to the same text, whatever else the other
  documents say.
-/
theorem get?_repair_of_outline_eq
    (a b : Corpus)
    (sources : Option SourceRepair)
    (hOutline : a.outline = b.outline)
    {d : Document}
    (ha : d ∈ a.documents)
    (hb : d ∈ b.documents) :
    ∃ t, (a.repair sources).get? d.path = some t ∧
      (b.repair sources).get? d.path = some t :=
  get?_repair_of_agrees
    (LinkRepair.agrees_of_outline_eq hOutline sources) ha hb

/- Documents around one with links of every kind. -/
theorem get?_repair_of_outline_eq_bodies :
    let d : Document :=
      ⟨"x/A.md".toList,
        "[a](M.md#fo) [Foo](Gone.md) \x7bref:Bar\x7d".toList⟩
    let a :=
      Corpus.ofList
        [d, ⟨"M.md".toList, "## Foo\nold".toList⟩,
         ⟨"N.md".toList, "## Bar [l](M.md)".toList⟩]
    let b :=
      Corpus.ofList
        [d, ⟨"M.md".toList, "```\n## Foo\n[new](A.md)".toList⟩,
         ⟨"N.md".toList, "z\n## Bar [l](M.md)\n".toList⟩]
    a ≠ b ∧ (a.repair none).get? d.path ≠ some d.text ∧
      ∃ t, (a.repair none).get? d.path = some t ∧
        (b.repair none).get? d.path = some t :=
  ⟨by decide +kernel, by decide +kernel,
    get?_repair_of_outline_eq _ _ none (by decide +kernel)
      (by decide +kernel) (by decide +kernel)⟩

end Corpus

end SourceDocs
