import SourceDocs.Proofs.Corpus.FirstHeadings
import SourceDocs.Proofs.LinkRepair.LinkablePaths
import SourceDocs.Proofs.LinkRepair.SettledTexts

/-
  Repair leaves a document alone that has nothing to repair.

  A link that is written as repair would write it is found
  at once: its path is read back, its document comes before
  all guesses, and its anchor is the one that is picked.

  Key definitions include:
    * `SourceDocs.DocPath.IsPlain`
    * `SourceDocs.leadsElsewhere`
    * `SourceDocs.Corpus.IsCanonicalTarget`

  Main results:
    * `SourceDocs.Corpus.lookup?_eq_decode`
    * `SourceDocs.Corpus.resolveLink_of_isCanonicalTarget`
    * `SourceDocs.LinkRepair.writeLink_of_isCanonicalTarget`
    * `SourceDocs.Corpus.get?_repair_of_correct`
-/

------------------------------------------------------------
-- Paths
------------------------------------------------------------

namespace SourceDocs

/- The ending of documents. -/
def documentEnding : Text :=
  ".md".toList

/-
  A path of a document that every link to it leads back to:
  it is normal, ends as documents do, holds no codes, starts
  no anchor, and has no blanks but spaces.
-/
structure DocPath.IsPlain (path : Text) : Prop where
  normal : normalize path = path
  ending : documentEnding <:+ path
  code : '%' ∉ path
  hash : '#' ∉ path
  blanks : ∀ c ∈ path, isBlank c = true → c = ' '

instance (path : Text) : Decidable (DocPath.IsPlain path) :=
  have hBlanks := DocPath.all_blanks_iff path
  decidable_of_iff
    (DocPath.normalize path = path ∧ documentEnding <:+ path ∧
      '%' ∉ path ∧ '#' ∉ path ∧
      path.all (fun c => !isBlank c || c == ' ') = true)
    ⟨fun ⟨h₁, h₂, h₃, h₄, h₅⟩ =>
        ⟨h₁, h₂, h₃, h₄, hBlanks.mp h₅⟩,
      fun h => ⟨h.normal, h.ending, h.code, h.hash,
        hBlanks.mpr h.blanks⟩⟩

------------------------------------------------------------
-- Targets
------------------------------------------------------------

/-
  Whether a trimmed target leads to no document: it is empty
  or a web address, it has no path, or its path names no
  document and its anchor no line of a source file.
-/
def leadsElsewhere (target : Text) : Bool :=
  let (path, anchor) := splitTarget target
  target = [] || isWebAddress target || path = [] ||
    (!namesDocument path && !anchor.any isLineAnchor)

/-
  A target in `current` is canonical if it is the link to a
  document of the corpus with one of its slugs, or without
  an anchor if the document has no headings.
-/
def Corpus.IsCanonicalTarget
    (corpus : Corpus)
    (current target : Text) : Prop :=
  ∃ d ∈ corpus.documents,
    (∃ a ∈ Anchor.all d.text,
      target = DocPath.relativeLink current d.path (some a.slug)) ∨
    (Anchor.all d.text = [] ∧
      target = DocPath.relativeLink current d.path none)

instance (corpus : Corpus) (current target : Text) :
    Decidable (corpus.IsCanonicalTarget current target) := by
  unfold Corpus.IsCanonicalTarget
  infer_instance

------------------------------------------------------------
-- Links That Lead Elsewhere
------------------------------------------------------------

/- A link that leads elsewhere is kept. -/
theorem resolveLink_of_leadsElsewhere
    (corpus : Corpus)
    (inventory : Inventory)
    (current : Text)
    {link : Link}
    (hElsewhere : leadsElsewhere (Text.trim link.target) = true) :
    resolveLink corpus inventory current link = .keep := by
  simp only [leadsElsewhere, Bool.or_eq_true, Bool.and_eq_true,
    decide_eq_true_eq, Bool.not_eq_true'] at hElsewhere
  rw [resolveLink]
  dsimp only
  rcases hElsewhere with
    ((hNil | hWeb) | hPath) | ⟨hNames, hLine⟩
  · rw [if_pos (Or.inl hNil)]
  · rw [if_pos (Or.inr hWeb)]
  · rw [if_pos hPath, ite_self]
  · rw [hNames, hLine]
    simp

------------------------------------------------------------
-- Links To Documents
------------------------------------------------------------

namespace Corpus

variable {corpus : Corpus}

/-
  A path that is decoded to one of the corpus is found there,
  as no path of the corpus holds codes itself.
-/
theorem lookup?_eq_decode
    (hPaths : ∀ path ∈ corpus.paths, '%' ∉ path)
    {candidate : Text}
    (hMem : PercentCode.decode candidate ∈ corpus.paths)
    (written : Text) :
    corpus.lookup? candidate written =
      some (PercentCode.decode candidate) := by
  have hDecoded := contains_iff.mpr hMem
  rw [lookup?]
  cases hCandidate : corpus.contains candidate with
  | true =>
      have hPlain := hPaths candidate (contains_iff.mp hCandidate)
      rw [List.find?_cons_of_pos hCandidate,
        PercentCode.decode_eq_self hPlain, Option.some_or]
  | false =>
      rw [List.find?_cons_of_neg (by simp [hCandidate]),
        List.find?_cons_of_pos hDecoded, Option.some_or]

/- A link to a document of the corpus finds it. -/
theorem lookupAliased?_relativeLink
    (hPaths : ∀ path ∈ corpus.paths, DocPath.IsPlain path)
    {current goal : Text}
    (hCurrent : current ∈ corpus.paths)
    (hGoal : goal ∈ corpus.paths)
    (written : Text) :
    corpus.lookupAliased?
        (DocPath.resolve current
          (DocPath.relativeLink current goal none)) written =
      some goal := by
  have hDecode :=
    DocPath.decode_resolve_relativeLink (hPaths current hCurrent).normal
      (hPaths goal hGoal).normal (hPaths goal hGoal).code
  have hLookup :=
    lookup?_eq_decode (fun path hPath => (hPaths path hPath).code)
      (hDecode ▸ hGoal) written
  rw [lookupAliased?, hLookup, hDecode, Option.some_or]

/- The path of such a link names a document. -/
theorem namesDocument_relativeLink
    (current : Text)
    {goal : Text}
    (hGoal : DocPath.IsPlain goal) :
    namesDocument (DocPath.relativeLink current goal none) =
      true := by
  rw [namesDocument, List.isSuffixOf_iff_suffix]
  exact DocPath.suffix_decode_relativeLink hGoal.normal hGoal.code
    (by decide) (by decide) hGoal.ending

/-
  A canonical target has an anchor that would be chosen
  again: one of the slugs, or none where there are none.
-/
theorem IsCanonicalTarget.exists_chosen
    {current target : Text}
    (hTarget : corpus.IsCanonicalTarget current target) :
    ∃ d ∈ corpus.documents, ∃ anchor,
      target = DocPath.relativeLink current d.path anchor ∧
      (∀ slug, anchor = some slug → Heading.IsSlug slug) ∧
      ∀ label,
        chooseAnchor?
            ((Inventory.ofCorpus corpus).anchorsOf d.path)
            label anchor = anchor := by
  rcases hTarget with ⟨d, hMem, ⟨a, ha, hEq⟩ | ⟨hNone, hEq⟩⟩
  · have hSlug := Anchor.isSlug_of_mem_all ha
    refine ⟨d, hMem, some a.slug, hEq, ?_, fun label => ?_⟩
    · rintro slug hSlugEq
      rcases Option.some.inj hSlugEq with rfl
      exact hSlug
    · rw [anchorsOf_of_mem hMem]
      exact pickAnchor?_eq_self hSlug (List.mem_map_of_mem ha) _
  · refine ⟨d, hMem, none, hEq, by simp, fun label => ?_⟩
    rw [anchorsOf_of_mem hMem, hNone]
    rfl

/- A link with a canonical target is sent where it leads. -/
theorem resolveLink_of_isCanonicalTarget
    (hPaths : ∀ path ∈ corpus.paths, DocPath.IsPlain path)
    {current : Text}
    (hCurrent : current ∈ corpus.paths)
    {link : Link}
    (hTarget : corpus.IsCanonicalTarget current link.target)
    (hWeb : isWebAddress (Text.trim link.target) = false) :
    resolveLink corpus (Inventory.ofCorpus corpus) current link =
      .redirect link.target := by
  rcases hTarget.exists_chosen with
    ⟨d, hMem, anchor, hLink, hSlug, hChosen⟩
  have hDocument : d.path ∈ corpus.paths :=
    List.mem_map_of_mem hMem
  have hGoal := hPaths d.path hDocument
  have hParts :
      splitTarget (Text.trim link.target) =
        (DocPath.relativeLink current d.path none, anchor) := by
    rw [hLink]
    exact splitTarget_relativeLink current hGoal.hash hGoal.blanks
      hSlug
  have hNames := namesDocument_relativeLink current hGoal
  have hPath : DocPath.relativeLink current d.path none ≠ [] := by
    intro hNil
    rw [hNil] at hNames
    exact absurd hNames (by decide)
  have hDocumentTarget :
      isDocumentTarget (Text.trim link.target) = true := by
    simp [isDocumentTarget, hWeb, hParts, hPath, hNames]
  have hLine : anchor.any isLineAnchor = false := by
    cases anchor with
    | none => rfl
    | some slug => exact isLineAnchor_of_isSlug (hSlug slug rfl)
  have hFound :=
    lookupAliased?_relativeLink hPaths hCurrent hDocument
      (DocPath.relativeLink current d.path none)
  rw [resolveLink_of_isDocumentTarget hDocumentTarget, hParts]
  dsimp only
  rw [hLine, if_neg (by simp), resolveDocument, hFound]
  dsimp only
  rw [hChosen, ← hLink]

end Corpus

namespace LinkRepair

variable {corpus : Corpus}
variable {sources : Option SourceRepair}
variable {current : Text}

/- A link with a canonical target is written as it is. -/
theorem writeLink_of_isCanonicalTarget
    (hPaths : ∀ path ∈ corpus.paths, DocPath.IsPlain path)
    (hCurrent : current ∈ corpus.paths)
    {link : Link}
    (hTarget : corpus.IsCanonicalTarget current link.target) :
    (ofCorpus corpus sources).writeLink current link =
      link.render := by
  rw [writeLink]
  simp only [ofCorpus]
  -- A path that looks like a web address would be kept as well.
  cases hWeb : isWebAddress (Text.trim link.target) with
  | true =>
      rw [resolveLink_of_leadsElsewhere]
      simp [leadsElsewhere, hWeb]
  | false =>
      rw [Corpus.resolveLink_of_isCanonicalTarget hPaths hCurrent
        hTarget hWeb]

/- So is a link that leads elsewhere. -/
theorem writeLink_of_leadsElsewhere
    {link : Link}
    (hElsewhere : leadsElsewhere (Text.trim link.target) = true) :
    (ofCorpus corpus sources).writeLink current link =
      link.render := by
  rw [writeLink, resolveLink_of_leadsElsewhere _ _ _ hElsewhere]

end LinkRepair

------------------------------------------------------------
-- Documents Without Faults
------------------------------------------------------------

namespace Corpus

/-
  A correct document is left alone: in a corpus of plain
  paths, one without placeholders outside of code, whose
  links outside of it all lead elsewhere or are canonical,
  comes out of repair as it was.
-/
theorem get?_repair_of_correct
    (corpus : Corpus)
    (hPaths : ∀ path ∈ corpus.paths, DocPath.IsPlain path)
    {d : Document}
    (hMem : d ∈ corpus.documents)
    (hPlaceholders : Fence.outside Placeholder.reader d.text = [])
    (hLinks :
      ∀ o ∈ Fence.outside Link.reader d.text,
        leadsElsewhere (Text.trim o.value.target) = true ∨
          corpus.IsCanonicalTarget d.path o.value.target) :
    (corpus.repair none).get? d.path = some d.text := by
  have hCurrent : d.path ∈ corpus.paths :=
    List.mem_map_of_mem hMem
  have hPass :
      (LinkRepair.ofCorpus corpus none).pass d.path d.text =
        d.text := by
    have hSources :
        (LinkRepair.ofCorpus corpus none).repairSources d.text =
          d.text := rfl
    rw [LinkRepair.pass, hSources,
      LinkRepair.repairPlaceholders_eq_self _ _ hPlaceholders]
    refine Fence.replaceOutside_eq_self Link.reader_steady
      Link.reader_frames fun o ho => ?_
    rw [(LinkRepair.covered_of_mem_outside ho).2]
    rcases hLinks o ho with hElsewhere | hCanonical
    · exact LinkRepair.writeLink_of_leadsElsewhere hElsewhere
    · exact LinkRepair.writeLink_of_isCanonicalTarget hPaths
        hCurrent hCanonical
  rw [get?_repair hMem]
  exact congrArg some (LinkRepair.settle_eq_self hPass _)

/- A document with links of every kind, in order. -/
theorem get?_repair_of_correct_many :
    let d : Document :=
      ⟨"My Docs/x/A.md".toList,
        ("[a](../M%20N.md#fo-o) [b](B.md) [c](#d) [e](https://f)\n" ++
          "[g](h.cs)\n```\n[i](Gone.md) \x7bref:J\x7d\n```").toList⟩
    let corpus :=
      Corpus.ofList
        [d, ⟨"M N.md".toList, "## Foo".toList⟩,
         ⟨"My Docs/M N.md".toList, "## Bar\n## Fo o".toList⟩,
         ⟨"My Docs/x/B.md".toList, []⟩]
    (Fence.outside Link.reader d.text).length = 5 ∧
      (corpus.repair none).get? d.path = some d.text :=
  ⟨by decide +kernel,
    get?_repair_of_correct _ (by decide +kernel)
      (by decide +kernel) (by decide +kernel) (by decide +kernel)⟩

end Corpus

end SourceDocs
