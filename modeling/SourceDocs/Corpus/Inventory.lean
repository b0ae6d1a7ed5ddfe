import SourceDocs.Corpus.Basic
import SourceDocs.Markdown.Heading

/-
  The inventory of a corpus: the anchors of each document,
  and for each entity the first place that documents it.

  Key definitions include:
    * `SourceDocs.Location`
    * `SourceDocs.Inventory`
    * `SourceDocs.Inventory.ofCorpus`
    * `SourceDocs.Inventory.anchorsOf`
    * `SourceDocs.Inventory.locate?`
-/

------------------------------------------------------------
-- Inventories
------------------------------------------------------------

namespace SourceDocs

/- A place in a corpus: a document and an anchor in it. -/
structure Location where
  document : Text
  anchor : Text
  deriving DecidableEq, Repr

/-
  The anchors by document and the locations by entity, each
  in the order in which they were found.
-/
structure Inventory where
  anchors : List (Text × List Anchor)
  entities : List (Text × Location)

namespace Inventory

/- The anchors of a document; none of an unknown one. -/
def anchorsOf
    (inventory : Inventory)
    (document : Text) : List Anchor :=
  (inventory.anchors.lookup document).getD []

/- Where an entity is documented. -/
def locate?
    (inventory : Inventory)
    (entity : Text) : Option Location :=
  inventory.entities.lookup entity

------------------------------------------------------------
-- Taking An Inventory
------------------------------------------------------------

/- Enters an entity, unless it has a location already. -/
def enter
    (entities : List (Text × Location))
    (entity : Text)
    (location : Location) : List (Text × Location) :=
  match entities.lookup entity with
  | some _ => entities
  | none => entities ++ [(entity, location)]

/- Enters the entity that an anchor's heading names. -/
def enterAnchor
    (document : Text)
    (entities : List (Text × Location))
    (anchor : Anchor) : List (Text × Location) :=
  match Heading.entity? anchor.heading with
  | some entity => enter entities entity ⟨document, anchor.slug⟩
  | none => entities

/- Adds a document to an inventory. -/
def add
    (inventory : Inventory)
    (d : Document) : Inventory :=
  let anchors := Anchor.all d.text
  ⟨inventory.anchors ++ [(d.path, anchors)],
    anchors.foldl (enterAnchor d.path) inventory.entities⟩

/- The inventory of a corpus. -/
def ofCorpus (corpus : Corpus) : Inventory :=
  corpus.documents.foldl add ⟨[], []⟩

end Inventory

end SourceDocs
