import SourceDocs.Proofs.LinkRepair.CorrectDocuments
import SourceDocs.Proofs.LinkRepair.LinkDestinations
import SourceDocs.Proofs.Markdown.HeadingPlaces
import SourceDocs.Proofs.Paths.ShortestLinks

/-
  Headings that stand in code.

  Repair takes what is behind an odd number of fences for
  code and leaves it alone. The inventory asks for no
  fences: a line of code that is written like a heading is
  listed with the others, and links are sent to it. So the
  two agree on what is code just as far as no such line
  stands there.

  Key definitions include:
    * `SourceDocs.Heading.Place.isOutside`
    * `SourceDocs.Document.IsOutsideDestination`
    * `SourceDocs.Document.HasSlugsOutside`
    * `SourceDocs.Corpus.PointsTo`
    * `SourceDocs.Corpus.AnchorsStayOutside`
    * `SourceDocs.Corpus.LinksStayOutside`

  Main results:
    * `SourceDocs.DocPath.relativeLink_inj`
    * `SourceDocs.Corpus.anchors_and_links_outside_iff`
-/

------------------------------------------------------------
-- Places Outside Of Code
------------------------------------------------------------

namespace SourceDocs

/- Whether the line of a heading starts outside of code. -/
def Heading.Place.isOutside (p : Heading.Place) : Bool :=
  Fence.isOutside (Fence.count p.before)

namespace Document

/-
  Whether a target leads to a heading outside of code, or to
  a document as a whole.
-/
def IsOutsideDestination
    (d : Document)
    (current target : Text) : Prop :=
  (∃ p : Heading.Place, p.IsIn d.text ∧ p.isOutside = true ∧
    target =
      DocPath.relativeLink current d.path (some p.slug)) ∨
  target = DocPath.relativeLink current d.path none

/- Whether each slug is that of a heading outside of code. -/
def HasSlugsOutside (d : Document) : Prop :=
  ∀ p : Heading.Place, p.IsIn d.text →
    ∃ q : Heading.Place, q.IsIn d.text ∧ q.isOutside = true ∧
      q.slug = p.slug

instance (d : Document) (current target : Text) :
    Decidable (d.IsOutsideDestination current target) :=
  decidable_of_iff
    ((∃ p ∈ Heading.places d.text, p.isOutside = true ∧
      target =
        DocPath.relativeLink current d.path (some p.slug)) ∨
      target = DocPath.relativeLink current d.path none)
    (by simp only [Heading.mem_places_iff, IsOutsideDestination])

instance (d : Document) : Decidable d.HasSlugsOutside :=
  decidable_of_iff
    (∀ p ∈ Heading.places d.text, ∃ q ∈ Heading.places d.text,
      q.isOutside = true ∧ q.slug = p.slug)
    (by simp only [Heading.mem_places_iff, HasSlugsOutside])

/- No destination is in code if the slugs are not. -/
theorem IsDestination.isOutside
    {d : Document}
    {current target : Text}
    (hSlugs : d.HasSlugsOutside)
    (hTarget : d.IsDestination current target) :
    d.IsOutsideDestination current target := by
  rcases hTarget with ⟨heading, hMem, rfl⟩ | ⟨-, rfl⟩
  · rcases Heading.exists_isIn_of_mem_all hMem with ⟨p, hIn, rfl⟩
    rcases hSlugs p hIn with ⟨q, hq, hOutside, hSlug⟩
    exact Or.inl ⟨q, hq, hOutside, by rw [hSlug]; rfl⟩
  · exact Or.inr rfl

end Document

------------------------------------------------------------
-- Links That Tell Their Goal
------------------------------------------------------------

namespace DocPath

/- A link tells what document it leads to, and its anchor. -/
theorem relativeLink_inj
    {current goal other : Text}
    (hCurrent : normalize current = current)
    (hGoal : IsPlain goal)
    (hOther : IsPlain other)
    {anchor anchor' : Option Text}
    (hAnchor : ∀ a, anchor = some a → Heading.IsSlug a)
    (hAnchor' : ∀ a, anchor' = some a → Heading.IsSlug a)
    (hEq :
      relativeLink current goal anchor =
        relativeLink current other anchor') :
    goal = other ∧ anchor = anchor' := by
  have hParts :=
    splitTarget_relativeLink current hGoal.hash hGoal.blanks
      hAnchor
  rw [hEq, splitTarget_relativeLink current hOther.hash
    hOther.blanks hAnchor', Prod.mk.injEq] at hParts
  refine ⟨?_, hParts.2.symm⟩
  rw [← decode_resolve_relativeLink hCurrent hGoal.normal
    hGoal.code, ← hParts.1, decode_resolve_relativeLink hCurrent
    hOther.normal hOther.code]

/- A link within a document goes through no directory. -/
theorem slash_not_mem_relativeLink_self
    {path : Text}
    (hNormal : normalize path = path) :
    '/' ∉ relativeLink path path none := by
  have hNames := isName_of_mem_names hNormal
  rw [relativeLink_eq_ups, commonLength_self, Nat.sub_self,
    directory, List.length_dropLast]
  change '/' ∉ ofSegments _
  rcases List.eq_nil_or_concat' (names path) with
    hNil | ⟨front, last, hLast⟩
  · rw [hNil]
    exact List.not_mem_nil
  · have hName : IsName last := hNames last (by simp [hLast])
    rw [hLast, List.length_append, List.length_singleton,
      Nat.add_sub_cancel, List.drop_left, List.map_singleton,
      ofSegments_singleton]
    exact hName.encodeSpaces.slash

end DocPath

theorem slash_mem_of_isWebAddress
    {target : Text}
    (hWeb : isWebAddress target = true) : '/' ∈ target := by
  rw [isWebAddress, Bool.or_eq_true, List.isPrefixOf_iff_prefix,
    List.isPrefixOf_iff_prefix] at hWeb
  rcases hWeb with hFront | hFront
  · exact hFront.mem (by decide)
  · exact hFront.mem (by decide)

/- So a link within a document is no web address. -/
theorem isWebAddress_relativeLink_self
    {path slug : Text}
    (hPath : DocPath.IsPlain path)
    (hSlug : Heading.IsSlug slug) :
    isWebAddress
        (Text.trim
          (DocPath.relativeLink path path (some slug))) =
      false := by
  rw [← Bool.not_eq_true]
  intro hWeb
  have hMem := slash_mem_of_isWebAddress hWeb
  rcases Text.exists_trim_eq
    (DocPath.relativeLink path path (some slug)) with
    ⟨a, b, hText, -, -⟩
  have hLink :
      '/' ∈ DocPath.relativeLink path path (some slug) := by
    rw [hText]
    simp [hMem]
  rw [DocPath.relativeLink_eq, List.mem_append] at hLink
  rcases hLink with hLink | hLink
  · exact DocPath.slash_not_mem_relativeLink_self hPath.normal
      hLink
  · rcases DocPath.fragment_cases (some slug) with
      hNil | ⟨anchor, hAnchor, hFragment⟩
    · rw [hNil] at hLink
      cases hLink
    · rw [hFragment] at hLink
      cases hAnchor
      rcases List.mem_cons.mp hLink with hEq | hLink
      · exact absurd hEq (by decide)
      · exact absurd (hSlug.chars '/' hLink) (by decide)

------------------------------------------------------------
-- Corpora
------------------------------------------------------------

namespace Corpus

/-
  Whether repair sends links in a document to a target: some
  link that stands there, or one written for a placeholder.
-/
def PointsTo
    (corpus : Corpus)
    (current target : Text) : Prop :=
  (∃ link,
    resolveLink corpus (Inventory.ofCorpus corpus) current link =
      .redirect target) ∨
  ∃ placeholder location,
    (LinkRepair.ofCorpus corpus none).locatePlaceholder?
        placeholder = some location ∧
      target = location.linkFrom current

/-
  Whether the anchors known of a document come from lines
  that all start outside of code.
-/
def AnchorsStayOutside
    (corpus : Corpus)
    (d : Document) : Prop :=
  ∃ ps,
    Anchor.ComeFrom d.text
        ((Inventory.ofCorpus corpus).anchorsOf d.path) ps ∧
      ∀ p ∈ ps, p.isOutside = true

/- Whether no link is sent to a heading in code. -/
def LinksStayOutside (corpus : Corpus) : Prop :=
  ∀ current target, corpus.PointsTo current target →
    ∃ d ∈ corpus.documents, d.IsOutsideDestination current target

variable {corpus : Corpus}

/- What a link is sent to is a destination in the corpus. -/
theorem PointsTo.exists_isDestination
    {current target : Text}
    (h : corpus.PointsTo current target) :
    ∃ d ∈ corpus.documents, d.IsDestination current target := by
  rcases h with ⟨link, hResolve⟩ |
    ⟨placeholder, location, hLocate, rfl⟩
  · exact exists_isDestination_of_resolveLink hResolve
  · exact exists_isDestination_of_locatePlaceholder? hLocate
      current

/- A document can link to each of its own headings. -/
theorem pointsTo_self
    (hPaths : ∀ path ∈ corpus.paths, DocPath.IsPlain path)
    {d : Document}
    (hMem : d ∈ corpus.documents)
    {p : Heading.Place}
    (hIn : p.IsIn d.text) :
    corpus.PointsTo d.path
      (DocPath.relativeLink d.path d.path (some p.slug)) := by
  have hPath : d.path ∈ corpus.paths := List.mem_map_of_mem hMem
  have hAnchor : p.anchor ∈ Anchor.all d.text := by
    rw [(Anchor.comeFrom_places d.text).eq_map]
    exact List.mem_map_of_mem (Heading.mem_places_iff.mpr hIn)
  have hWeb :=
    isWebAddress_relativeLink_self (hPaths d.path hPath)
      (Heading.isSlug_slug p.heading)
  rw [← Heading.Place.slug] at hWeb
  generalize hTarget :
    DocPath.relativeLink d.path d.path (some p.slug) = target
      at hWeb ⊢
  refine Or.inl ⟨⟨[], target⟩, ?_⟩
  apply resolveLink_of_isCanonicalTarget hPaths hPath _ hWeb
  refine ⟨d, hMem, Or.inl ⟨p.anchor, hAnchor, ?_⟩⟩
  rw [p.slug_anchor, hTarget]

/- Its slugs are outside of code if no link leads there. -/
theorem LinksStayOutside.hasSlugsOutside
    (hPaths : ∀ path ∈ corpus.paths, DocPath.IsPlain path)
    (hLinks : corpus.LinksStayOutside)
    {d : Document}
    (hMem : d ∈ corpus.documents) : d.HasSlugsOutside := by
  intro p hIn
  have hPlain : ∀ d ∈ corpus.documents, DocPath.IsPlain d.path :=
    fun d hd => hPaths d.path (List.mem_map_of_mem hd)
  have hSlug (q : Heading.Place) :
      ∀ a, some q.slug = some a → Heading.IsSlug a := by
    intro a hEq
    rw [← Option.some.inj hEq]
    exact Heading.isSlug_slug q.heading
  have hNormal := (hPlain d hMem).normal
  rcases hLinks _ _ (pointsTo_self hPaths hMem hIn) with
    ⟨d', hd', ⟨q, hq, hOutside, hTarget⟩ | hTarget⟩
  · rcases DocPath.relativeLink_inj hNormal (hPlain d hMem)
      (hPlain d' hd') (hSlug p) (hSlug q) hTarget with
      ⟨hPath, hEq⟩
    have hText := get?_eq_some_of_mem hMem
    rw [hPath, get?_eq_some_of_mem hd'] at hText
    rw [Option.some.inj hText] at hq
    exact ⟨q, hq, hOutside, (Option.some.inj hEq).symm⟩
  · rcases DocPath.relativeLink_inj hNormal (hPlain d hMem)
      (hPlain d' hd') (hSlug p) (by simp) hTarget with ⟨-, hEq⟩
    cases hEq

/- The anchors of a document are those of all its places. -/
theorem anchorsStayOutside_iff
    {d : Document}
    (hMem : d ∈ corpus.documents) :
    corpus.AnchorsStayOutside d ↔
      ∀ p : Heading.Place, p.IsIn d.text →
        p.isOutside = true := by
  simp only [AnchorsStayOutside, anchorsOf_of_mem hMem,
    Anchor.comeFrom_all_iff, exists_eq_left,
    Heading.mem_places_iff]

/-
  The inventory and the repair agree on what is code as far
  as no heading stands there. The anchors that are known of
  a document come from lines outside of code exactly if all
  its lines with headings are outside. No link is sent into
  code if each slug of a document is that of a heading
  outside, and in a corpus of plain paths only then.
-/
theorem anchors_and_links_outside_iff (corpus : Corpus) :
    (∀ d ∈ corpus.documents,
      corpus.AnchorsStayOutside d ↔
        ∀ p : Heading.Place, p.IsIn d.text →
          p.isOutside = true) ∧
    ((∀ d ∈ corpus.documents, d.HasSlugsOutside) →
      corpus.LinksStayOutside) ∧
    ((∀ path ∈ corpus.paths, DocPath.IsPlain path) →
      corpus.LinksStayOutside →
        ∀ d ∈ corpus.documents, d.HasSlugsOutside) := by
  refine ⟨fun d hMem => anchorsStayOutside_iff hMem, ?_,
    fun hPaths hLinks d hMem =>
      hLinks.hasSlugsOutside hPaths hMem⟩
  intro hSlugs current target hPoints
  rcases hPoints.exists_isDestination with ⟨d, hMem, hTarget⟩
  exact ⟨d, hMem, hTarget.isOutside (hSlugs d hMem)⟩

/-
  A heading that stands in code and outside of it as well is
  linked to, but one of its anchors comes from code.
-/
theorem anchors_and_links_outside_iff_of_twin :
    let guide : Document :=
      ⟨"Guide.md".toList,
        "```sh\n## Setup\nmake\n```\n\n## Setup\n".toList⟩
    let corpus : Corpus :=
      .ofList
        [⟨"Index.md".toList, "See [it](Guide.md).\n".toList⟩,
          guide]
    guide ∈ corpus.documents ∧
      (∀ path ∈ corpus.paths, DocPath.IsPlain path) ∧
      (∀ d ∈ corpus.documents, d.HasSlugsOutside) ∧
      corpus.LinksStayOutside ∧ guide.HasSlugsOutside ∧
      ¬ corpus.AnchorsStayOutside guide := by
  intro guide corpus
  have hMem : guide ∈ corpus.documents := by
    decide +kernel
  have hPaths : ∀ path ∈ corpus.paths, DocPath.IsPlain path := by
    decide +kernel
  have hSlugs : ∀ d ∈ corpus.documents, d.HasSlugsOutside := by
    decide +kernel
  rcases anchors_and_links_outside_iff corpus with
    ⟨hAnchors, hOutside, hOnly⟩
  have hLinks := hOutside hSlugs
  refine ⟨hMem, hPaths, hSlugs, hLinks,
    hOnly hPaths hLinks guide hMem, fun hStay => ?_⟩
  have hIn :
      Heading.Place.IsIn guide.text
        ⟨"```sh\n".toList, "Setup".toList⟩ := by
    decide +kernel
  exact absurd ((hAnchors guide hMem).mp hStay _ hIn)
    (by decide +kernel)

/-
  A comment in a code sample is listed as a heading, and a
  link to its document leads there.
-/
theorem not_anchors_and_links_outside :
    let guide : Document :=
      ⟨"Guide.md".toList,
        "```sh\n## Build first\nmake\n```\n\n## Setup\n".toList⟩
    let corpus : Corpus :=
      .ofList
        [⟨"Index.md".toList,
          "See [setup](Guide.md).\n".toList⟩, guide]
    guide ∈ corpus.documents ∧
      ¬ corpus.AnchorsStayOutside guide ∧
      ¬ corpus.LinksStayOutside := by
  intro guide corpus
  have hMem : guide ∈ corpus.documents := by
    decide +kernel
  refine ⟨hMem, fun hStay => ?_, fun hLinks => ?_⟩
  · have hIn :
        Heading.Place.IsIn guide.text
          ⟨"```sh\n".toList, "Build first".toList⟩ := by
      decide +kernel
    exact absurd ((anchorsStayOutside_iff hMem).mp hStay _ hIn)
      (by decide +kernel)
  · have hResolve :
        resolveLink corpus (Inventory.ofCorpus corpus)
            "Index.md".toList
            ⟨"setup".toList, "Guide.md".toList⟩ =
          .redirect "Guide.md#build-first".toList := by
      decide +kernel
    exact absurd (hLinks _ _ (Or.inl ⟨_, hResolve⟩))
      (by decide +kernel)

end Corpus

end SourceDocs
