import SourceDocs.Proofs.Corpus.Lookup

/-
  What the repair of a document reads of the corpus.

  Repair finds documents by their paths, anchors by their
  documents and locations by their entities, and nothing
  else. Two settings that answer all these alike repair a
  document alike, whatever the corpora behind them are.

  Key definitions include:
    * `SourceDocs.LinkRepair.Agrees`

  Main results:
    * `SourceDocs.LinkRepair.Agrees.pass_eq`
    * `SourceDocs.LinkRepair.Agrees.repairDocument_eq`
    * `SourceDocs.Corpus.get?_repair_of_agrees`
-/

------------------------------------------------------------
-- Settings That Agree
------------------------------------------------------------

namespace SourceDocs

namespace LinkRepair

/-
  Two settings agree if each question of repair has the same
  answer in both, and source URLs are repaired alike.
-/
structure Agrees (a b : LinkRepair) : Prop where
  documents :
    ∀ candidate written,
      a.corpus.lookupAliased? candidate written =
        b.corpus.lookupAliased? candidate written
  anchors :
    ∀ path, a.inventory.anchorsOf path = b.inventory.anchorsOf path
  entities :
    ∀ entity, a.inventory.locate? entity = b.inventory.locate? entity
  sources : a.sources = b.sources

namespace Agrees

variable {a b : LinkRepair}

------------------------------------------------------------
-- Links And Placeholders
------------------------------------------------------------

/- A link to a missing document goes to the same entity. -/
theorem resolveEntity_eq
    (hAgrees : a.Agrees b)
    (current : Text)
    (guesses : List Text) :
    resolveEntity a.inventory current guesses =
      resolveEntity b.inventory current guesses := by
  have hLocate : a.inventory.locate? = b.inventory.locate? :=
    funext hAgrees.entities
  rw [resolveEntity, resolveEntity, hLocate]

/- A link to a document goes to the same one. -/
theorem resolveDocument_eq
    (hAgrees : a.Agrees b)
    (current label path : Text)
    (anchor : Option Text) :
    resolveDocument a.corpus a.inventory current label path
        anchor =
      resolveDocument b.corpus b.inventory current label path
        anchor := by
  rw [resolveDocument, resolveDocument, hAgrees.documents,
    hAgrees.resolveEntity_eq]
  split
  · rfl
  · rw [hAgrees.anchors]

theorem resolveLink_eq
    (hAgrees : a.Agrees b)
    (current : Text)
    (link : Link) :
    resolveLink a.corpus a.inventory current link =
      resolveLink b.corpus b.inventory current link := by
  rw [resolveLink, resolveLink]
  dsimp only
  rw [hAgrees.resolveDocument_eq]

theorem writeLink_eq
    (hAgrees : a.Agrees b)
    (current : Text)
    (link : Link) :
    a.writeLink current link = b.writeLink current link := by
  rw [writeLink, writeLink, hAgrees.resolveLink_eq]

theorem writePlaceholder_eq
    (hAgrees : a.Agrees b)
    (current : Text)
    (p : Placeholder) :
    a.writePlaceholder current p = b.writePlaceholder current p := by
  rw [writePlaceholder, writePlaceholder, locatePlaceholder?,
    locatePlaceholder?, hAgrees.entities, hAgrees.entities]

------------------------------------------------------------
-- Passes
------------------------------------------------------------

/- One pass over a text comes to the same text. -/
theorem pass_eq
    (hAgrees : a.Agrees b)
    (current t : Text) : a.pass current t = b.pass current t := by
  have hSources : a.repairSources t = b.repairSources t := by
    rw [repairSources, repairSources, hAgrees.sources]
  have hPlaceholders :
      a.repairPlaceholders current = b.repairPlaceholders current := by
    funext u
    rw [repairPlaceholders, repairPlaceholders]
    simp only [hAgrees.writePlaceholder_eq]
  have hLinks : a.repairLinks current = b.repairLinks current := by
    funext u
    rw [repairLinks, repairLinks]
    simp only [hAgrees.writeLink_eq]
  rw [pass, pass, hSources, hPlaceholders, hLinks]

/- So do all passes over a document. -/
theorem repairDocument_eq
    (hAgrees : a.Agrees b)
    (d : Document) : a.repairDocument d = b.repairDocument d := by
  have hPass : a.pass d.path = b.pass d.path :=
    funext (hAgrees.pass_eq d.path)
  rw [repairDocument, repairDocument, hPass]

end Agrees

end LinkRepair

------------------------------------------------------------
-- Corpora
------------------------------------------------------------

namespace Corpus

/-
  A document that two corpora share is there in both after
  repair, with one text, if the repairs agree.
-/
theorem get?_repair_of_agrees
    {a b : Corpus}
    {sources : Option SourceRepair}
    (hAgrees :
      (LinkRepair.ofCorpus a sources).Agrees
        (LinkRepair.ofCorpus b sources))
    {d : Document}
    (ha : d ∈ a.documents)
    (hb : d ∈ b.documents) :
    ∃ t, (a.repair sources).get? d.path = some t ∧
      (b.repair sources).get? d.path = some t := by
  refine ⟨_, get?_repair ha, ?_⟩
  rw [hAgrees.repairDocument_eq]
  exact get?_repair hb

end Corpus

end SourceDocs
