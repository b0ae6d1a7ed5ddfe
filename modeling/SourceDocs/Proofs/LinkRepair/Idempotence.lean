import SourceDocs.Proofs.LinkRepair.DeadLinks
import SourceDocs.Proofs.Markdown.HeadingLines

/-
  Repairing a repaired corpus changes nothing.

  The second repair goes by the headings of the repaired
  documents. A link that the first one left pointing at a
  document is found there again, and if no anchor was lost
  it is sent to the same one.

  Key definitions include:
    * `SourceDocs.LinkRepair.KeepsAnchors`

  Main results:
    * `SourceDocs.chooseAnchor?_eq_of_kept`
    * `SourceDocs.Corpus.repair_repair`
-/

------------------------------------------------------------
-- Choosing The Same Anchor
------------------------------------------------------------

namespace SourceDocs

/-
  A link that already has the anchor chosen for it keeps it
  if none is lost and none comes to a document without.
-/
theorem chooseAnchor?_eq_of_kept
    {old new : List Anchor}
    {label : Text}
    {anchor : Option Text}
    (hKept :
      ∀ slug ∈ old.map Anchor.slug, slug ∈ new.map Anchor.slug)
    (hNone : old.map Anchor.slug = [] → new.map Anchor.slug = [])
    (hSlugs : ∀ a ∈ old, Heading.IsSlug a.slug)
    (hChosen : chooseAnchor? old label anchor = anchor) :
    chooseAnchor? new label anchor = anchor := by
  cases anchor with
  | none =>
      rw [chooseAnchor?, ← List.head?_map] at hChosen ⊢
      rw [List.head?_eq_none_iff] at hChosen ⊢
      exact hNone hChosen
  | some slug =>
      rcases exists_of_chooseAnchor? hChosen with ⟨a, ha, rfl⟩
      exact pickAnchor?_eq_self (hSlugs a ha)
        (hKept _ (List.mem_map_of_mem ha)) _

------------------------------------------------------------
-- Documents That Keep Their Anchors
------------------------------------------------------------

namespace LinkRepair

/-
  The repair of a document keeps its anchors if each slug is
  still there, and a document without headings gets none.
-/
structure KeepsAnchors
    (repair : LinkRepair)
    (d : Document) : Prop where
  kept :
    ∀ slug ∈ Heading.slugs d.text,
      slug ∈ Heading.slugs (repair.repairDocument d)
  none :
    Heading.slugs d.text = [] →
      Heading.slugs (repair.repairDocument d) = []

instance (repair : LinkRepair) (d : Document) :
    Decidable (repair.KeepsAnchors d) :=
  decidable_of_iff
    ((∀ slug ∈ Heading.slugs d.text,
        slug ∈ Heading.slugs (repair.repairDocument d)) ∧
      (Heading.slugs d.text = [] →
        Heading.slugs (repair.repairDocument d) = []))
    ⟨fun ⟨h₁, h₂⟩ => ⟨h₁, h₂⟩, fun h => ⟨h.kept, h.none⟩⟩

end LinkRepair

namespace Corpus

variable {corpus : Corpus}
variable {sources : Option SourceRepair}

/- The slugs that the inventory of a repaired corpus has. -/
theorem slugs_anchorsOf_repair
    {d : Document}
    (hMem : d ∈ corpus.documents) :
    ((Inventory.ofCorpus (corpus.repair sources)).anchorsOf
        d.path).map Anchor.slug =
      Heading.slugs
        ((LinkRepair.ofCorpus corpus sources).repairDocument
          d) := by
  rw [Inventory.anchorsOf_ofCorpus, get?_repair hMem]
  exact Heading.map_slug_anchors _

theorem slugs_anchorsOf
    {d : Document}
    (hMem : d ∈ corpus.documents) :
    ((Inventory.ofCorpus corpus).anchorsOf d.path).map
        Anchor.slug =
      Heading.slugs d.text := by
  rw [Inventory.anchorsOf_ofCorpus, get?_eq_some_of_mem hMem]
  exact Heading.map_slug_anchors _

theorem isSlug_of_chooseAnchor?
    (corpus : Corpus)
    (path label : Text)
    (anchor : Option Text) :
    ∀ slug,
      chooseAnchor? ((Inventory.ofCorpus corpus).anchorsOf path)
          label anchor =
        some slug → Heading.IsSlug slug := by
  intro slug hChoose
  rcases exists_of_chooseAnchor? hChoose with ⟨a, ha, rfl⟩
  exact Inventory.isSlug_of_mem_anchorsOf ha

theorem chooseAnchor?_repair
    {d : Document}
    (hMem : d ∈ corpus.documents)
    (hKeeps : (LinkRepair.ofCorpus corpus sources).KeepsAnchors d)
    {label : Text}
    {anchor : Option Text}
    (hChosen :
      chooseAnchor? ((Inventory.ofCorpus corpus).anchorsOf d.path)
        label anchor = anchor) :
    chooseAnchor?
        ((Inventory.ofCorpus (corpus.repair sources)).anchorsOf
          d.path) label anchor = anchor := by
  refine chooseAnchor?_eq_of_kept ?_ ?_
    (fun a ha => Inventory.isSlug_of_mem_anchorsOf ha) hChosen
  · rw [slugs_anchorsOf hMem, slugs_anchorsOf_repair hMem]
    exact hKeeps.kept
  · rw [slugs_anchorsOf hMem, slugs_anchorsOf_repair hMem]
    exact hKeeps.none

------------------------------------------------------------
-- The Second Repair Of A Link
------------------------------------------------------------

/-
  A link that is sent where it leads already is sent there
  again after the repair.
-/
theorem resolveLink_repair
    (hPaths : ∀ path ∈ corpus.paths, DocPath.IsLinkable path)
    (hAnchors :
      ∀ d ∈ corpus.documents,
        (LinkRepair.ofCorpus corpus sources).KeepsAnchors d)
    {current : Text}
    (hCurrent : current ∈ corpus.paths)
    {link : Link}
    (hTarget : isDocumentTarget (Text.trim link.target) = true)
    (hResolve :
      resolveLink corpus (Inventory.ofCorpus corpus) current
        link = .redirect link.target) :
    resolveLink (corpus.repair sources)
        (Inventory.ofCorpus (corpus.repair sources)) current link =
      .redirect link.target := by
  rcases (reaches_of_resolveLink hResolve).leadsToDocument hPaths
      hCurrent with ⟨hLine, hPath⟩
  rw [resolveLink_of_isDocumentTarget hTarget] at hResolve ⊢
  dsimp only at hResolve hPath ⊢
  generalize hSplit : splitTarget (Text.trim link.target) = parts
    at hLine hPath hResolve ⊢
  rw [hLine, if_neg (by simp), resolveDocument] at hResolve ⊢
  rw [lookupAliased?_eq_of_paths_eq (paths_repair corpus sources)]
  cases hLookup :
      corpus.lookupAliased? (DocPath.resolve current parts.1)
        parts.1 with
  | none =>
      rw [lookupAliased?, Option.or_eq_none_iff] at hLookup
      exact absurd hLookup.1 (lookup?_ne_none_of_mem hPath _)
  | some document =>
      rw [hLookup] at hResolve
      dsimp only at hResolve ⊢
      have hDocument := mem_paths_of_lookupAliased? hLookup
      rcases List.mem_map.mp hDocument with ⟨d, hMem, rfl⟩
      have hWritten := Resolution.redirect.inj hResolve
      -- The anchor that is read is the one that was chosen.
      have hGoal := hPaths d.path hDocument
      have hParts :=
        splitTarget_relativeLink current hGoal.hash hGoal.blanks
          (isSlug_of_chooseAnchor? corpus d.path link.label
            parts.2)
      rw [hWritten, hSplit] at hParts
      have hChosen :
          chooseAnchor?
              ((Inventory.ofCorpus corpus).anchorsOf d.path)
              link.label parts.2 = parts.2 :=
        (congrArg Prod.snd hParts).symm
      have hAgain :=
        chooseAnchor?_repair hMem (hAnchors d hMem) hChosen
      rw [hAgain]
      rwa [hChosen] at hResolve

/- A link that was written as it is is so again. -/
theorem writeLink_repair
    (hPaths : ∀ path ∈ corpus.paths, DocPath.IsLinkable path)
    (hAnchors :
      ∀ d ∈ corpus.documents,
        (LinkRepair.ofCorpus corpus sources).KeepsAnchors d)
    {current : Text}
    (hCurrent : current ∈ corpus.paths)
    {link : Link}
    (hWritable : link.IsWritable)
    (hKept :
      (LinkRepair.ofCorpus corpus sources).writeLink current link =
        link.render) :
    (LinkRepair.ofCorpus (corpus.repair sources) sources).writeLink
        current link =
      link.render := by
  have hSame :
      resolveLink (corpus.repair sources)
          (Inventory.ofCorpus (corpus.repair sources)) current
          link =
        resolveLink corpus (Inventory.ofCorpus corpus) current
          link := by
    cases hTarget : isDocumentTarget (Text.trim link.target) with
    | false =>
        rcases resolveLink_of_not_isDocumentTarget hTarget with
          ⟨resolution, -, hAlways⟩
        rw [hAlways, hAlways]
    | true =>
        have hClose := close_not_mem_of_linkable hPaths
        have hResolve :=
          LinkRepair.resolveLink_eq_redirect hTarget hWritable
            hClose hKept
        rw [hResolve]
        exact resolveLink_repair hPaths hAnchors hCurrent hTarget
          hResolve
  rw [LinkRepair.writeLink] at hKept ⊢
  simp only [LinkRepair.ofCorpus] at hKept ⊢
  rw [hSame]
  exact hKept

------------------------------------------------------------
-- The Second Repair Of A Document
------------------------------------------------------------

/- A document that settled is left as it is. -/
theorem repairDocument_repair
    (hPaths : ∀ path ∈ corpus.paths, DocPath.IsLinkable path)
    (hAnchors :
      ∀ d ∈ corpus.documents,
        (LinkRepair.ofCorpus corpus sources).KeepsAnchors d)
    {current t : Text}
    (hCurrent : current ∈ corpus.paths)
    (hSources :
      (LinkRepair.ofCorpus corpus sources).repairSources t = t)
    (hPass :
      (LinkRepair.ofCorpus corpus sources).pass current t = t) :
    (LinkRepair.ofCorpus (corpus.repair sources)
      sources).repairDocument ⟨current, t⟩ = t := by
  have hBrace := brace_not_mem_of_linkable hPaths
  have hClose := close_not_mem_of_linkable hPaths
  have hNone :=
    LinkRepair.outside_placeholders_eq_nil hBrace hClose hSources
      hPass
  have hKept :=
    LinkRepair.writeLink_eq_covered hBrace hClose hSources hPass
  refine LinkRepair.settle_eq_self ?_ _
  have hSourcesAgain :
      (LinkRepair.ofCorpus (corpus.repair sources)
        sources).repairSources t = t := hSources
  rw [LinkRepair.pass, hSourcesAgain,
    LinkRepair.repairPlaceholders_eq_self _ _ hNone]
  refine Fence.replaceOutside_eq_self Link.reader_steady
    Link.reader_frames fun o ho => ?_
  rcases LinkRepair.covered_of_mem_outside ho with
    ⟨hWritable, hCovered⟩
  rw [hCovered]
  exact writeLink_repair hPaths hAnchors hCurrent hWritable
    ((hKept o ho).trans hCovered)

/-
  So it does with each path that is not read back, where its
  entity turns up in another document, and if a document
  without headings gets one.
-/
theorem repair_repair_changes_misreadPaths :
    let changes (documents : List Document) : Prop :=
      let corpus := Corpus.ofList documents
      (∀ d ∈ corpus.documents,
        (LinkRepair.ofCorpus corpus none).Settles d ∧
          ∀ slug ∈ Heading.slugs d.text,
            slug ∈ Heading.slugs
              ((LinkRepair.ofCorpus corpus none).repairDocument
                d)) ∧
        (corpus.repair none).repair none ≠ corpus.repair none
    (∀ entry ∈ misreadPaths,
      changes
        [⟨"A.md".toList, "## [Foo\nx](M.md)".toList⟩,
         ⟨entry.1, "## Foo".toList⟩,
         ⟨"B.md".toList, entry.2⟩]) ∧
      changes
        [⟨"A.md".toList, "[## a](M.md)\n[b](A.md)".toList⟩] := by
  decide +kernel

/-
  So it does if a template of source URLs brings in a link
  whose demotion leaves the URL that was repaired.
-/
theorem repair_repair_changes_sources :
    let sources : SourceRepair :=
      { checkout := .empty
        template :=
          ⟨[], [],
            "https:/[/github.com/your-repo/A.cs](q.md)".toList⟩
        index := ⟨[("A.cs".toList, "A.cs".toList)]⟩
        extensions := ["cs".toList] }
    let corpus :=
      Corpus.ofList
        [⟨"A.md".toList,
          "https://github.com/your-repo/A.cs".toList⟩,
         ⟨"B.md".toList,
          "## qymd\n## [[q](Z.md)](Y.md)".toList⟩]
    (∀ d ∈ corpus.documents,
      (LinkRepair.ofCorpus corpus (some sources)).Settles d ∧
        (LinkRepair.ofCorpus corpus (some sources)).KeepsAnchors
          d) ∧
      let repaired := corpus.repair (some sources)
      repaired.repair (some sources) ≠ repaired := by
  decide +kernel

end Corpus

end SourceDocs
