import SourceDocs.LinkRepair.Documents
import SourceDocs.Proofs.Corpus.Inventory
import SourceDocs.Proofs.Corpus.Lookup
import SourceDocs.Proofs.Markdown.LinkSyntax
import SourceDocs.Proofs.Paths.RelativeLinks

/-
  Which targets the repair of a corpus writes: links to its
  documents, with the slug of one of their headings, or
  without an anchor where there are none.

  Key definitions include:
    * `SourceDocs.Corpus.Reaches`
    * `SourceDocs.Document.IsDestination`
    * `SourceDocs.isDocumentTarget`

  Main results:
    * `SourceDocs.Corpus.mem_paths_of_lookupAliased?`
    * `SourceDocs.chooseAnchor?_eq_none_iff`
    * `SourceDocs.exists_isDestination_of_resolveLink`
    * `SourceDocs.LinkRepair.writeLink_cases`
    * `SourceDocs.LinkRepair.writePlaceholder_cases`
-/

------------------------------------------------------------
-- Documents That Are Found
------------------------------------------------------------

namespace SourceDocs

namespace Corpus

variable {corpus : Corpus}

/- What is found for a path is a document of the corpus. -/
theorem mem_paths_of_lookup?
    {candidate written document : Text}
    (hLookup :
      corpus.lookup? candidate written = some document) :
    document ∈ corpus.paths := by
  rw [lookup?, Option.or_eq_some_iff] at hLookup
  rcases hLookup with hFind | ⟨-, hLookup⟩
  · exact contains_iff.mp (List.find?_some hFind)
  · rcases Option.or_eq_some_iff.mp hLookup with
      hCollapsed | ⟨-, hName⟩
    · rcases Option.filter_eq_some_iff.mp hCollapsed with
        ⟨-, hMem⟩
      exact contains_iff.mp hMem
    · exact List.mem_of_find?_eq_some hName

theorem mem_paths_of_lookupAliased?
    {candidate written document : Text}
    (hLookup :
      corpus.lookupAliased? candidate written = some document) :
    document ∈ corpus.paths := by
  rw [lookupAliased?, Option.or_eq_some_iff] at hLookup
  rcases hLookup with hLookup | ⟨-, hLookup⟩
  · exact mem_paths_of_lookup? hLookup
  · rcases List.exists_of_findSome?_eq_some hLookup with
      ⟨other, -, hOther⟩
    exact mem_paths_of_lookup? hOther

/- A path of the corpus is found for itself. -/
theorem lookup?_ne_none_of_mem
    {candidate : Text}
    (hMem : candidate ∈ corpus.paths ∨
      PercentCode.decode candidate ∈ corpus.paths)
    (written : Text) :
    corpus.lookup? candidate written ≠ none := by
  intro hNone
  rw [lookup?, Option.or_eq_none_iff, List.find?_eq_none] at hNone
  rcases hMem with hMem | hMem
  · exact hNone.1 candidate (by simp) (contains_iff.mpr hMem)
  · exact hNone.1 _ (by simp) (contains_iff.mpr hMem)

/-
  A target reaches the corpus from a document if it is the
  link to a document, with a slug or without an anchor.
-/
inductive Reaches
    (corpus : Corpus)
    (current : Text) : Text → Prop
| intro {document : Text} {anchor : Option Text}
    (hMem : document ∈ corpus.paths)
    (hAnchor : ∀ a, anchor = some a → Heading.IsSlug a) :
    Reaches corpus current
      (DocPath.relativeLink current document anchor)

theorem Reaches.mem
    {current target : Text}
    (hReaches : corpus.Reaches current target)
    {c : Char}
    (hc : c ∈ target) :
    c ∈ ['.', '/', '%', '2', '0', '#'] ∨
      Heading.isSlugChar c = true ∨
      ∃ document ∈ corpus.paths, c ∈ document ∧ c ≠ ' ' := by
  cases hReaches with
  | @intro document anchor hMem hAnchor =>
      rw [DocPath.relativeLink_eq] at hc
      rcases List.mem_append.mp hc with hc | hc
      · rcases DocPath.mem_relativeLink hc with hc | hc
        · exact Or.inl (List.mem_append_left ['#'] hc)
        · exact Or.inr (Or.inr ⟨document, hMem, hc⟩)
      · match anchor, hAnchor, hc with
        | some (a :: as), hAnchor, hc =>
          rcases List.mem_cons.mp hc with rfl | hc
          · simp
          · exact Or.inr (Or.inl ((hAnchor _ rfl).chars c hc))

/- A character that is in no path is in no such target. -/
theorem Reaches.not_mem
    {current target : Text}
    (hReaches : corpus.Reaches current target)
    {c : Char}
    (hSyntax : c ∉ ['.', '/', '%', '2', '0', '#'])
    (hSlug : Heading.isSlugChar c = false)
    (hPaths : ∀ path ∈ corpus.paths, c ∉ path) :
    c ∉ target := by
  intro hc
  rcases hReaches.mem hc with hc | hc | ⟨document, hMem, hc, -⟩
  · exact hSyntax hc
  · simp [hSlug] at hc
  · exact hPaths document hMem hc

end Corpus

------------------------------------------------------------
-- Destinations
------------------------------------------------------------

/-
  Whether a target leads from a document to a heading of
  this one, or to all of it if it has no headings.
-/
def Document.IsDestination
    (d : Document)
    (current target : Text) : Prop :=
  (∃ heading ∈ Heading.all d.text,
    target =
      DocPath.relativeLink current d.path
        (some (Heading.slug heading))) ∨
  Heading.all d.text = [] ∧
    target = DocPath.relativeLink current d.path none

instance (d : Document) (current target : Text) :
    Decidable (d.IsDestination current target) :=
  inferInstanceAs (Decidable ((∃ _ ∈ _, _) ∨ _ ∧ _))

/- An anchor of a document leads to its heading. -/
theorem Document.isDestination_of_mem_anchors
    {d : Document}
    {a : Anchor}
    (hMem : a ∈ Anchor.all d.text)
    (current : Text) :
    d.IsDestination current
      (DocPath.relativeLink current d.path (some a.slug)) := by
  rcases List.mem_map.mp hMem with ⟨heading, hHeading, rfl⟩
  rw [Heading.slug_ofHeading]
  exact Or.inl ⟨heading, hHeading, rfl⟩

/- A destination in a document of the corpus is reached. -/
theorem Document.IsDestination.reaches
    {corpus : Corpus}
    {d : Document}
    {current target : Text}
    (hTarget : d.IsDestination current target)
    (hMem : d ∈ corpus.documents) :
    corpus.Reaches current target := by
  have hPath : d.path ∈ corpus.paths := List.mem_map_of_mem hMem
  rcases hTarget with ⟨heading, -, rfl⟩ | ⟨-, rfl⟩
  · refine .intro hPath fun slug hSlug => ?_
    rw [← Option.some.inj hSlug]
    exact Heading.isSlug_slug heading
  · exact .intro hPath nofun

------------------------------------------------------------
-- Anchors That Are Chosen
------------------------------------------------------------

/- A picked slug is that of one of the anchors. -/
theorem exists_of_pickAnchor?
    {anchors : List Anchor}
    {wanted slug : Text}
    {hints : List Text}
    (hPick : pickAnchor? anchors wanted hints = some slug) :
    ∃ a ∈ anchors, a.slug = slug := by
  rw [pickAnchor?, Option.map_eq_some_iff] at hPick
  rcases hPick with ⟨a, hFound, rfl⟩
  refine ⟨a, ?_, rfl⟩
  simp only [Option.or_eq_some_iff] at hFound
  rcases hFound with
    ((hExact | ⟨-, hClose⟩) | ⟨-, hHinted⟩) | ⟨-, hFirst⟩
  · exact List.mem_of_find?_eq_some hExact
  · exact List.mem_of_find?_eq_some hClose
  · rcases List.exists_of_findSome?_eq_some hHinted with
      ⟨hint, -, hHint⟩
    exact List.mem_of_find?_eq_some hHint
  · exact List.mem_of_head? hFirst

theorem exists_of_chooseAnchor?
    {anchors : List Anchor}
    {label slug : Text}
    {wanted : Option Text}
    (hChoose : chooseAnchor? anchors label wanted = some slug) :
    ∃ a ∈ anchors, a.slug = slug := by
  cases wanted with
  | some wanted => exact exists_of_pickAnchor? hChoose
  | none =>
      rcases Option.map_eq_some_iff.mp hChoose with
        ⟨a, hFirst, rfl⟩
      exact ⟨a, List.mem_of_head? hFirst, rfl⟩

/- Some slug is picked wherever there are anchors. -/
theorem pickAnchor?_eq_none_iff
    {anchors : List Anchor}
    {wanted : Text}
    {hints : List Text} :
    pickAnchor? anchors wanted hints = none ↔ anchors = [] := by
  constructor
  · intro hPick
    rw [pickAnchor?, Option.map_eq_none_iff,
      Option.or_eq_none_iff, List.head?_eq_none_iff] at hPick
    exact hPick.2
  · rintro rfl
    have hHinted : hintedAnchor? [] = fun _ => none := rfl
    simp [pickAnchor?, hHinted]

theorem chooseAnchor?_eq_none_iff
    {anchors : List Anchor}
    {label : Text}
    {wanted : Option Text} :
    chooseAnchor? anchors label wanted = none ↔ anchors = [] := by
  cases wanted with
  | some wanted => exact pickAnchor?_eq_none_iff
  | none =>
      rw [chooseAnchor?, Option.map_eq_none_iff,
        List.head?_eq_none_iff]

/- A slug that is wanted and there is picked. -/
theorem pickAnchor?_eq_self
    {anchors : List Anchor}
    {slug : Text}
    (hSlug : Heading.IsSlug slug)
    (hMem : slug ∈ anchors.map Anchor.slug)
    (hints : List Text) :
    pickAnchor? anchors slug hints = some slug := by
  rw [pickAnchor?, hSlug.lowered_eq]
  simp only [Bool.or_self]
  rcases List.mem_map.mp hMem with ⟨a, ha, hEq⟩
  cases hFind : anchors.find? (·.slug == slug) with
  | none =>
      have hNot := List.find?_eq_none.mp hFind a ha
      exact absurd hEq (by simpa using hNot)
  | some b =>
      have hExact : b.slug = slug := by
        simpa using List.find?_some hFind
      simp [hExact]

------------------------------------------------------------
-- Resolutions
------------------------------------------------------------

/-
  Whether a trimmed target names a document: it is no web
  address, and its path is there and names one.
-/
def isDocumentTarget (target : Text) : Bool :=
  let path := (splitTarget target).1
  !isWebAddress target && path ≠ [] && namesDocument path

section Resolving

variable {corpus : Corpus}
variable {current target : Text}

/- An entity is located at a heading of a document. -/
theorem exists_isDestination_of_locate?
    {entity : Text}
    {location : Location}
    (hLocate :
      (Inventory.ofCorpus corpus).locate? entity =
        some location)
    (current : Text) :
    ∃ d ∈ corpus.documents,
      d.IsDestination current (location.linkFrom current) := by
  rcases Inventory.exists_of_locate? hLocate with
    ⟨d, hd, a, ha, rfl⟩
  exact ⟨d, hd, Document.isDestination_of_mem_anchors ha current⟩

theorem exists_isDestination_of_resolveEntity
    {guesses : List Text}
    (hResolve :
      resolveEntity (Inventory.ofCorpus corpus) current guesses =
        .redirect target) :
    ∃ d ∈ corpus.documents, d.IsDestination current target := by
  rw [resolveEntity] at hResolve
  split at hResolve
  · next location hFound =>
    cases hResolve
    rcases List.exists_of_findSome?_eq_some hFound with
      ⟨guess, -, hLocate⟩
    exact exists_isDestination_of_locate? hLocate current
  · cases hResolve

/- So a document that is found leads to one of its own. -/
theorem isDestination_of_chooseAnchor
    {d : Document}
    (hMem : d ∈ corpus.documents)
    (label : Text)
    (wanted : Option Text) :
    d.IsDestination current
      (DocPath.relativeLink current d.path
        (chooseAnchor? ((Inventory.ofCorpus corpus).anchorsOf
          d.path) label wanted)) := by
  rw [Inventory.anchorsOf_ofCorpus,
    Corpus.get?_eq_some_of_mem hMem, Option.map_some,
    Option.getD_some]
  cases hChoose :
      chooseAnchor? (Anchor.all d.text) label wanted with
  | none =>
      have hNone := chooseAnchor?_eq_none_iff.mp hChoose
      exact Or.inr ⟨List.map_eq_nil_iff.mp hNone, rfl⟩
  | some slug =>
      rcases exists_of_chooseAnchor? hChoose with ⟨a, ha, rfl⟩
      exact Document.isDestination_of_mem_anchors ha current

theorem exists_isDestination_of_resolveDocument
    {label path : Text}
    {anchor : Option Text}
    (hResolve :
      resolveDocument corpus (Inventory.ofCorpus corpus) current
        label path anchor = .redirect target) :
    ∃ d ∈ corpus.documents, d.IsDestination current target := by
  rw [resolveDocument] at hResolve
  split at hResolve
  · exact exists_isDestination_of_resolveEntity hResolve
  · next document hLookup =>
    cases hResolve
    have hMem := Corpus.mem_paths_of_lookupAliased? hLookup
    rcases List.mem_map.mp hMem with ⟨d, hd, rfl⟩
    exact ⟨d, hd, isDestination_of_chooseAnchor hd label anchor⟩

/- Only a link that names a document is looked up. -/
theorem resolveLink_of_isDocumentTarget
    {inventory : Inventory}
    {link : Link}
    (hTarget : isDocumentTarget (Text.trim link.target) = true) :
    resolveLink corpus inventory current link =
      let (path, anchor) := splitTarget (Text.trim link.target)
      if anchor.any isLineAnchor then .demote
      else
        resolveDocument corpus inventory current link.label path
          anchor := by
  simp only [isDocumentTarget, Bool.and_eq_true,
    Bool.not_eq_true', decide_eq_true_eq] at hTarget
  rcases hTarget with ⟨⟨hWeb, hPath⟩, hNames⟩
  have hNil : Text.trim link.target ≠ [] := by
    intro hEq
    rw [hEq] at hPath
    exact hPath rfl
  have hSkip :
      ¬ (Text.trim link.target = [] ∨
        isWebAddress (Text.trim link.target) = true) := by
    simp [hNil, hWeb]
  rw [resolveLink]
  simp only [if_neg hSkip, if_neg hPath, hNames, Bool.not_true,
    Bool.false_eq_true, if_false]

/- A link to a document is demoted or sent on. -/
theorem resolveDocument_ne_keep
    {inventory : Inventory}
    {label path : Text}
    {anchor : Option Text} :
    resolveDocument corpus inventory current label path anchor ≠
      .keep := by
  unfold resolveDocument
  dsimp only
  split
  · unfold resolveEntity
    split <;> simp
  · simp

/- Such a link is never passed over. -/
theorem resolveLink_ne_keep
    {inventory : Inventory}
    {link : Link}
    (hTarget : isDocumentTarget (Text.trim link.target) = true) :
    resolveLink corpus inventory current link ≠ .keep := by
  rw [resolveLink_of_isDocumentTarget hTarget]
  dsimp only
  split
  · simp
  · exact resolveDocument_ne_keep

/-
  What becomes of any other link depends on it alone; it is
  demoted only if it names a line.
-/
theorem resolveLink_of_not_isDocumentTarget
    {link : Link}
    (hTarget : isDocumentTarget (Text.trim link.target) = false) :
    ∃ resolution,
      (resolution = .keep ∨
        resolution = .demote ∧
          (splitTarget (Text.trim link.target)).2.any
            isLineAnchor = true) ∧
      ∀ corpus inventory current,
        resolveLink corpus inventory current link =
          resolution := by
  by_cases hSkip :
      Text.trim link.target = [] ∨
        isWebAddress (Text.trim link.target) = true
  · refine ⟨.keep, Or.inl rfl, fun corpus inventory current => ?_⟩
    rw [resolveLink]
    simp only [if_pos hSkip]
  · by_cases hPath : (splitTarget (Text.trim link.target)).1 = []
    · refine ⟨.keep, Or.inl rfl, fun corpus inventory current => ?_⟩
      rw [resolveLink]
      simp only [if_neg hSkip, if_pos hPath]
    · have hNames :
          namesDocument (splitTarget (Text.trim link.target)).1 =
            false := by
        rw [not_or, Bool.not_eq_true] at hSkip
        simpa [isDocumentTarget, hSkip.2, hPath] using hTarget
      by_cases hLine :
          (splitTarget (Text.trim link.target)).2.any
            isLineAnchor = true
      · refine ⟨.demote, Or.inr ⟨rfl, hLine⟩,
          fun corpus inventory current => ?_⟩
        rw [resolveLink]
        simp only [if_neg hSkip, if_neg hPath, if_pos hLine]
      · refine ⟨.keep, Or.inl rfl,
          fun corpus inventory current => ?_⟩
        rw [resolveLink]
        simp only [if_neg hSkip, if_neg hPath, if_neg hLine,
          hNames, Bool.not_false, if_true]

/- Whatever link is sent on leads to a document's own. -/
theorem exists_isDestination_of_resolveLink
    {link : Link}
    (hResolve :
      resolveLink corpus (Inventory.ofCorpus corpus) current
        link = .redirect target) :
    ∃ d ∈ corpus.documents, d.IsDestination current target := by
  cases hTarget : isDocumentTarget (Text.trim link.target) with
  | false =>
      rcases resolveLink_of_not_isDocumentTarget hTarget with
        ⟨resolution, hCases, hAlways⟩
      rw [hAlways] at hResolve
      rcases hCases with rfl | ⟨rfl, -⟩ <;> cases hResolve
  | true =>
      rw [resolveLink_of_isDocumentTarget hTarget] at hResolve
      dsimp only at hResolve
      split at hResolve
      · cases hResolve
      · exact exists_isDestination_of_resolveDocument hResolve

/- So it reaches the corpus. -/
theorem reaches_of_resolveLink
    {link : Link}
    (hResolve :
      resolveLink corpus (Inventory.ofCorpus corpus) current
        link = .redirect target) :
    corpus.Reaches current target := by
  rcases exists_isDestination_of_resolveLink hResolve with
    ⟨d, hd, hTarget⟩
  exact hTarget.reaches hd

/- A placeholder is located at a heading of a document. -/
theorem exists_isDestination_of_locatePlaceholder?
    {sources : Option SourceRepair}
    {p : Placeholder}
    {location : Location}
    (hLocate :
      (LinkRepair.ofCorpus corpus sources).locatePlaceholder? p =
        some location)
    (current : Text) :
    ∃ d ∈ corpus.documents,
      d.IsDestination current (location.linkFrom current) := by
  rw [LinkRepair.locatePlaceholder?, Option.or_eq_some_iff]
    at hLocate
  rcases hLocate with hWhole | ⟨-, hLast⟩
  · exact exists_isDestination_of_locate? hWhole current
  · exact exists_isDestination_of_locate? hLast current

end Resolving

------------------------------------------------------------
-- What Is Written
------------------------------------------------------------

namespace LinkRepair

variable {corpus : Corpus}
variable {sources : Option SourceRepair}

/- A link is written as its label, as it is, or sent on. -/
theorem writeLink_cases
    (corpus : Corpus)
    (sources : Option SourceRepair)
    (current : Text)
    (link : Link) :
    let written := (ofCorpus corpus sources).writeLink current link
    written = link.label ∨ written = link.render ∨
      ∃ target, corpus.Reaches current target ∧
        written = Link.render ⟨link.label, target⟩ := by
  intro written
  simp only [written, writeLink]
  split
  · exact Or.inl rfl
  · exact Or.inr (Or.inl rfl)
  · next target hResolve =>
    exact Or.inr (Or.inr
      ⟨target, reaches_of_resolveLink hResolve, rfl⟩)

/- A placeholder is written as its name or as a link. -/
theorem writePlaceholder_cases
    (corpus : Corpus)
    (sources : Option SourceRepair)
    (current : Text)
    (p : Placeholder) :
    let written :=
      (ofCorpus corpus sources).writePlaceholder current p
    written = p.name ∨
      ∃ target, corpus.Reaches current target ∧
        written = Link.render ⟨p.name, target⟩ := by
  intro written
  simp only [written, writePlaceholder]
  split
  · next location hLocate =>
    rcases exists_isDestination_of_locatePlaceholder? hLocate
      current with ⟨d, hd, hTarget⟩
    exact Or.inr ⟨_, hTarget.reaches hd, rfl⟩
  · exact Or.inl rfl

end LinkRepair

end SourceDocs
