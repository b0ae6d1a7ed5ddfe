import SourceDocs.Proofs.Corpus.Inventory
import SourceDocs.Proofs.Corpus.Lookup
import SourceDocs.Proofs.Markdown.WrittenHeadings

/-
  The inventory of a corpus as a matter of its headings.

  The headings of a corpus follow one another: documents in
  their order, and the headings of each as they stand in its
  text. An entity is located at the first of them that names
  it, so its anchor is one of those known of the document.

  Key definitions include:
    * `SourceDocs.PlacedHeading`
    * `SourceDocs.Corpus.headings`

  Main results:
    * `SourceDocs.Inventory.locate?_eq_find?_headings`
    * `SourceDocs.Inventory.locate?_eq_none_iff`
    * `SourceDocs.Inventory.locate?_and_anchorsOf_of_headings`
-/

------------------------------------------------------------
-- Headings In Order
------------------------------------------------------------

namespace SourceDocs

/- A heading and the path of the document it stands in. -/
structure PlacedHeading where
  document : Text
  heading : Text
  deriving DecidableEq, Repr

namespace PlacedHeading

/- Where the heading is. -/
def location (h : PlacedHeading) : Location :=
  ⟨h.document, Heading.slug h.heading⟩

/- Whether the heading names an entity. -/
def names
    (entity : Text)
    (h : PlacedHeading) : Bool :=
  Heading.entity? h.heading == some entity

end PlacedHeading

/- The headings of a document, in the order of its text. -/
def Document.headings (d : Document) : List PlacedHeading :=
  (Heading.all d.text).map fun heading => ⟨d.path, heading⟩

/- The headings of a corpus, document by document. -/
def Corpus.headings (corpus : Corpus) : List PlacedHeading :=
  corpus.documents.flatMap Document.headings

------------------------------------------------------------
-- The First To Name An Entity
------------------------------------------------------------

namespace Inventory

/- Of the anchors of a document the first that names counts. -/
theorem lookup_namings
    (d : Document)
    (entity : Text) :
    (namings d).lookup entity =
      (d.headings.find? (·.names entity)).map
        PlacedHeading.location := by
  rw [namings, Document.headings, Anchor.all]
  induction Heading.all d.text with
  | nil => rfl
  | cons heading headings ih =>
      rw [List.map_cons, List.map_cons, List.filterMap_cons,
        List.find?_cons, naming?, PlacedHeading.names]
      dsimp only [Anchor.ofHeading]
      cases hNamed : Heading.entity? heading with
      | none =>
          rw [Option.map_none]
          exact ih
      | some named =>
          rw [Option.map_some, List.lookup_cons]
          by_cases hEntity : named = entity
          · simp [hEntity, PlacedHeading.location]
          · have hNe : (entity == named) = false := by
              simpa using fun hEq : entity = named =>
                hEntity hEq.symm
            have hOther : (some named == some entity) = false := by
              simpa using hEntity
            rw [hNe, hOther]
            exact ih

/- An entity is where the first heading is that names it. -/
theorem locate?_eq_find?_headings
    (corpus : Corpus)
    (entity : Text) :
    (ofCorpus corpus).locate? entity =
      (corpus.headings.find? (·.names entity)).map
        PlacedHeading.location := by
  rw [locate?_ofCorpus, Corpus.headings, List.find?_flatMap,
    List.map_findSome?]
  refine congrArg (List.findSome? · corpus.documents) ?_
  funext d
  exact lookup_namings d entity

/- It is nowhere just if no line has a heading that names it. -/
theorem locate?_eq_none_iff
    {corpus : Corpus}
    {entity : Text} :
    (ofCorpus corpus).locate? entity = none ↔
      ∀ d ∈ corpus.documents, ∀ line ∈ d.text.splitOn '\n',
        ∀ heading, Heading.IsWrittenOn line heading →
          Heading.entity? heading ≠ some entity := by
  rw [locate?_eq_find?_headings, Option.map_eq_none_iff,
    List.find?_eq_none, Corpus.headings, List.forall_mem_flatMap]
  refine forall₂_congr fun d _ => ?_
  rw [Document.headings, List.forall_mem_map]
  simp only [PlacedHeading.names, beq_iff_eq, Heading.mem_all_iff]
  constructor
  · intro h line hLine heading hWritten
    exact h heading ⟨line, hLine, hWritten⟩
  · rintro h heading ⟨line, hLine, hWritten⟩
    exact h line hLine heading hWritten

end Inventory

------------------------------------------------------------
-- Anchors And Locations
------------------------------------------------------------

namespace Corpus

variable {corpus : Corpus}

/- A document is known by its own anchors. -/
theorem anchorsOf_of_mem
    {d : Document}
    (hMem : d ∈ corpus.documents) :
    (Inventory.ofCorpus corpus).anchorsOf d.path =
      Anchor.all d.text := by
  rw [Inventory.anchorsOf_ofCorpus, get?_eq_some_of_mem hMem]
  rfl

/- No other path has anchors. -/
theorem anchorsOf_of_not_mem
    {path : Text}
    (hPath : path ∉ corpus.paths) :
    (Inventory.ofCorpus corpus).anchorsOf path = [] := by
  rw [Inventory.anchorsOf_ofCorpus, get?_eq_none_iff.mpr hPath]
  rfl

end Corpus

namespace Inventory

/-
  An entity is located at the first heading of the corpus
  that names it, and nowhere if none does. Known of a
  document are its headings with their slugs, in order, and
  none of any other path. So an entity is located at a slug
  that is known of its document.
-/
theorem locate?_and_anchorsOf_of_headings (corpus : Corpus) :
    (∀ entity,
      (ofCorpus corpus).locate? entity =
        (corpus.headings.find? (·.names entity)).map
          PlacedHeading.location) ∧
    (∀ entity,
      (ofCorpus corpus).locate? entity = none ↔
        ∀ d ∈ corpus.documents, ∀ line ∈ d.text.splitOn '\n',
          ∀ heading, Heading.IsWrittenOn line heading →
            Heading.entity? heading ≠ some entity) ∧
    (∀ d ∈ corpus.documents,
      (ofCorpus corpus).anchorsOf d.path =
        (Heading.all d.text).map fun heading =>
          ⟨heading, Heading.slug heading⟩) ∧
    (∀ path, path ∉ corpus.paths →
      (ofCorpus corpus).anchorsOf path = []) ∧
    ∀ entity location,
      (ofCorpus corpus).locate? entity = some location →
        location.anchor ∈
          ((ofCorpus corpus).anchorsOf location.document).map
            Anchor.slug := by
  refine ⟨locate?_eq_find?_headings corpus,
    fun entity => locate?_eq_none_iff,
    fun d hd => Corpus.anchorsOf_of_mem hd,
    fun path hPath => Corpus.anchorsOf_of_not_mem hPath, ?_⟩
  intro entity location hLocate
  rcases exists_of_locate? hLocate with ⟨d, hd, a, ha, rfl⟩
  rw [Corpus.anchorsOf_of_mem hd]
  exact List.mem_map_of_mem ha

/-
  Two documents name the same entity, one of them twice; a
  heading of a third level names none.
-/
theorem locate?_and_anchorsOf_of_headings_repeated :
    let corpus : Corpus :=
      .ofList
        [⟨"Domain/Aggregate.md".toList,
          "# Domain\n##\t Order (Aggregate) \r\n## Order\n".toList⟩,
         ⟨"Api/Commands.md".toList,
          "### Buyer\n## [Order](../Domain/Order.md)\n".toList⟩]
    let first : Location :=
      ⟨"Domain/Aggregate.md".toList, "order-aggregate".toList⟩
    (ofCorpus corpus).locate? "Order".toList = some first ∧
      (ofCorpus corpus).locate? "Buyer".toList = none ∧
      (ofCorpus corpus).anchorsOf "Domain/Aggregate.md".toList =
        [⟨"Order (Aggregate)".toList, "order-aggregate".toList⟩,
         ⟨"Order".toList, "order".toList⟩] ∧
      (ofCorpus corpus).anchorsOf "Domain/Order.md".toList = [] ∧
      first.anchor ∈
        ((ofCorpus corpus).anchorsOf first.document).map
          Anchor.slug := by
  intro corpus first
  rcases locate?_and_anchorsOf_of_headings corpus with
    ⟨hLocate, -, hAnchors, hOther, hKnown⟩
  have hOrder :
      (corpus.headings.find? (·.names "Order".toList)).map
        PlacedHeading.location = some first := by
    decide +kernel
  have hBuyer :
      (corpus.headings.find? (·.names "Buyer".toList)).map
        PlacedHeading.location = none := by
    decide +kernel
  have hMem :
      (⟨"Domain/Aggregate.md".toList,
        "# Domain\n##\t Order (Aggregate) \r\n## Order\n".toList⟩ :
          Document) ∈ corpus.documents := by
    decide +kernel
  have hHeadings :
      ((Heading.all
            "# Domain\n##\t Order (Aggregate) \r\n## Order\n".toList
          ).map fun heading =>
            (⟨heading, Heading.slug heading⟩ : Anchor)) =
        [⟨"Order (Aggregate)".toList, "order-aggregate".toList⟩,
         ⟨"Order".toList, "order".toList⟩] := by
    decide +kernel
  have hPath : "Domain/Order.md".toList ∉ corpus.paths := by
    decide +kernel
  have hFirst := (hLocate "Order".toList).trans hOrder
  exact ⟨hFirst, (hLocate "Buyer".toList).trans hBuyer,
    (hAnchors _ hMem).trans hHeadings, hOther _ hPath,
    hKnown _ _ hFirst⟩

end Inventory

end SourceDocs
