import SourceDocs.Proofs.LinkRepair.DocumentOrder
import SourceDocs.Proofs.LinkRepair.Targets

/-
  Where links to documents are sent, and which are demoted.

  A link is sent to a heading of a document, or to all of a
  document that has no headings. It is demoted only if it
  names a line of a source file, or if no document has its
  file name and no entity that it may speak of is known.

  Main results:
    * `SourceDocs.Corpus.byFileName?_eq_none_iff`
    * `SourceDocs.resolveLink_sound_complete`
-/

------------------------------------------------------------
-- File Names
------------------------------------------------------------

namespace SourceDocs

namespace Corpus

variable {corpus : Corpus}

theorem hasFileName_iff
    {name path : Text}
    (hName : '/' ∉ name) :
    hasFileName name path = true ↔
      DocPath.fileName path = name := by
  refine ⟨fileName_eq_of_hasFileName hName, ?_⟩
  rintro rfl
  rw [hasFileName, Bool.or_eq_true, beq_iff_eq,
    List.isSuffixOf_iff_suffix]
  rcases Text.eq_append_afterLast '/' path with
    hEq | ⟨front, hEq⟩
  · exact Or.inl hEq
  · exact Or.inr ⟨front, hEq.symm⟩

/- No document is found by name if none has the name. -/
theorem byFileName?_eq_none_iff
    {path : Text} :
    corpus.byFileName? (DocPath.fileName path) = none ↔
      ∀ d ∈ corpus.documents,
        DocPath.fileName d.path ≠ DocPath.fileName path := by
  have hName : '/' ∉ DocPath.fileName path :=
    Text.not_mem_afterLast '/' path
  rw [byFileName?, List.find?_eq_none, paths,
    List.forall_mem_map]
  simp only [hasFileName_iff hName, ne_eq]

/- What is not found in any other way is looked up by name. -/
theorem byFileName?_of_lookupAliased?
    {candidate written : Text}
    (hLookup : corpus.lookupAliased? candidate written = none) :
    corpus.byFileName?
        (DocPath.fileName (PercentCode.decode candidate)) =
      none := by
  rw [lookupAliased?, Option.or_eq_none_iff, lookup?,
    Option.or_eq_none_iff, Option.or_eq_none_iff] at hLookup
  exact hLookup.1.2.2

end Corpus

------------------------------------------------------------
-- Resolutions
------------------------------------------------------------

section Resolving

variable {corpus : Corpus}
variable {current target : Text}

/- A link is demoted where neither names nor entities help. -/
theorem not_found_of_resolveDocument
    {inventory : Inventory}
    {label path : Text}
    {anchor : Option Text}
    (hResolve :
      resolveDocument corpus inventory current label path anchor =
        .demote) :
    let candidate := DocPath.resolve current path
    (∀ d ∈ corpus.documents,
      DocPath.fileName d.path ≠
        DocPath.fileName (PercentCode.decode candidate)) ∧
      ∀ entity ∈ entityGuesses label anchor candidate,
        inventory.locate? entity = none := by
  rw [resolveDocument] at hResolve
  split at hResolve
  · next hLookup =>
    refine ⟨Corpus.byFileName?_eq_none_iff.mp
      (Corpus.byFileName?_of_lookupAliased? hLookup), ?_⟩
    rw [resolveEntity] at hResolve
    split at hResolve
    · cases hResolve
    · next hNone => exact List.findSome?_eq_none_iff.mp hNone
  · cases hResolve

end Resolving

/-
  Every link is resolved for a reason that the corpus bears
  out. One that is sent on leads to a document of the corpus
  and to one of its headings. One that is demoted names a
  line, or nothing in the corpus goes by its names. One that
  is kept names no document.
-/
theorem resolveLink_sound_complete
    (corpus : Corpus)
    (current : Text)
    (link : Link) :
    let inventory := Inventory.ofCorpus corpus
    let parts := splitTarget (Text.trim link.target)
    let candidate := DocPath.resolve current parts.1
    (∀ target,
      resolveLink corpus inventory current link =
          .redirect target →
        ∃ d ∈ corpus.documents, d.IsDestination current target) ∧
    (resolveLink corpus inventory current link = .demote →
      parts.2.any isLineAnchor = true ∨
        (∀ d ∈ corpus.documents,
          DocPath.fileName d.path ≠
            DocPath.fileName (PercentCode.decode candidate)) ∧
          ∀ entity ∈ entityGuesses link.label parts.2 candidate,
            inventory.locate? entity = none) ∧
    (resolveLink corpus inventory current link = .keep →
      isDocumentTarget (Text.trim link.target) = false) := by
  intro inventory parts candidate
  refine ⟨fun target => exists_isDestination_of_resolveLink, ?_⟩
  cases hTarget : isDocumentTarget (Text.trim link.target) with
  | false =>
      rcases resolveLink_of_not_isDocumentTarget hTarget with
        ⟨resolution, hCases, hAlways⟩
      rw [hAlways]
      rcases hCases with rfl | ⟨rfl, hLine⟩
      · exact ⟨nofun, fun _ => rfl⟩
      · exact ⟨fun _ => Or.inl hLine, nofun⟩
  | true =>
      have hKept :
          resolveLink corpus inventory current link ≠ .keep :=
        resolveLink_ne_keep hTarget
      refine ⟨fun hResolve => ?_,
        fun hResolve => absurd hResolve hKept⟩
      rw [resolveLink_of_isDocumentTarget hTarget] at hResolve
      by_cases hLine : parts.2.any isLineAnchor = true
      · exact Or.inl hLine
      · exact Or.inr (not_found_of_resolveDocument
          ((if_neg hLine).symm.trans hResolve))

/- A heading, a whole document, an entity, and none of them. -/
theorem resolveLink_sound_complete_of_each :
    let corpus :=
      Corpus.ofList
        [⟨"x/A.md".toList, "## Foo Bar".toList⟩,
         ⟨"B.md".toList, "text".toList⟩]
    let current := "y/C.md".toList
    let resolve (label target : String) : Resolution :=
      resolveLink corpus (Inventory.ofCorpus corpus) current
        ⟨label.toList, target.toList⟩
    let toHeading := "../x/A.md#foo-bar".toList
    let toAll := "../B.md".toList
    resolve "a" "A.md#bar" = .redirect toHeading ∧
      resolve "Foo" "Gone.md" = .redirect toHeading ∧
      resolve "b" "z/B.md#x" = .redirect toAll ∧
      resolve "c" "Gone.md" = .demote ∧
      (∃ d ∈ corpus.documents,
        d.IsDestination current toHeading) ∧
      (∃ d ∈ corpus.documents, d.IsDestination current toAll) ∧
      (∀ d ∈ corpus.documents,
        DocPath.fileName d.path ≠ "Gone.md".toList) ∧
      (Inventory.ofCorpus corpus).locate? "Gone".toList =
        none := by
  intro corpus current resolve toHeading toAll
  have hHeading :
      resolve "a" "A.md#bar" = .redirect toHeading := by
    decide +kernel
  have hEntity :
      resolve "Foo" "Gone.md" = .redirect toHeading := by
    decide +kernel
  have hAll : resolve "b" "z/B.md#x" = .redirect toAll := by
    decide +kernel
  have hGone : resolve "c" "Gone.md" = .demote := by
    decide +kernel
  have hSound (label target : String) :=
    resolveLink_sound_complete corpus current
      ⟨label.toList, target.toList⟩
  have hName :
      DocPath.fileName
          (PercentCode.decode
            (DocPath.resolve current
              (splitTarget (Text.trim "Gone.md".toList)).1)) =
        "Gone.md".toList := by
    decide +kernel
  rcases (hSound "c" "Gone.md").2.1 hGone with
    hLine | ⟨hNames, hEntities⟩
  · exact absurd hLine (by decide +kernel)
  · exact ⟨hHeading, hEntity, hAll, hGone,
      (hSound "a" "A.md#bar").1 _ hHeading,
      (hSound "b" "z/B.md#x").1 _ hAll,
      fun d hd hEq => hNames d hd (hEq.trans hName.symm),
      hEntities _ (by decide +kernel)⟩

end SourceDocs
