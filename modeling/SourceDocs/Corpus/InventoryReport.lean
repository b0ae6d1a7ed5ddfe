import SourceDocs.Corpus.Inventory
import SourceDocs.Json

/-
  The inventory of a corpus as text and as JSON. Entities
  come in the order of their names.

  Key definitions include:
    * `SourceDocs.Inventory.sortedEntities`
    * `SourceDocs.Inventory.report`
    * `SourceDocs.Inventory.toJson`
-/

namespace SourceDocs

/- An anchor as JSON. -/
def Anchor.toJson (a : Anchor) : Json :=
  .record [("heading", .text a.heading), ("slug", .text a.slug)]

/- A location as JSON. -/
def Location.toJson (l : Location) : Json :=
  .record
    [("anchor", .text l.anchor), ("document", .text l.document)]

namespace Inventory

/- Puts an entity in its place among sorted ones. -/
def place
    (entity : Text × Location) :
    List (Text × Location) → List (Text × Location)
| [] => [entity]
| other :: others =>
  if entity.1 < other.1 then entity :: other :: others
  else other :: place entity others

/- The entities in the order of their names. -/
def sortedEntities
    (inventory : Inventory) : List (Text × Location) :=
  inventory.entities.foldr place []

/- The lines for a document and its anchors. -/
def documentLines
    (inventory : Inventory)
    (path : Text) : List Text :=
  path ::
    (inventory.anchorsOf path).map fun a =>
      "  #".toList ++ a.slug ++ "  ".toList ++ a.heading

/- The line for an entity. -/
def entityLine (entity : Text × Location) : Text :=
  entity.1 ++ "  ->  ".toList ++ entity.2.document ++
    '#' :: entity.2.anchor

/- The lines for a whole corpus. -/
def report
    (inventory : Inventory)
    (corpus : Corpus) : List Text :=
  corpus.paths.flatMap inventory.documentLines ++
    [] :: inventory.sortedEntities.map entityLine

/- The inventory of a corpus as JSON. -/
def toJson
    (inventory : Inventory)
    (corpus : Corpus) : Json :=
  .record
    [("documents",
      .ofList
        (fun path =>
          .record
            [("anchors",
              .ofList Anchor.toJson (inventory.anchorsOf path)),
             ("document", .text path)])
        corpus.paths),
     ("entities",
      .object
        (inventory.sortedEntities.map fun (name, l) =>
          (name, l.toJson)))]

end Inventory

end SourceDocs
