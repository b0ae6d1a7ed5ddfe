import SourceDocs.LinkRepair.Resolution
import SourceDocs.Markdown.Fence
import SourceDocs.SourceUrl.Repair

/-
  Repair of all documents of a corpus.

  A document is repaired in passes: its source URLs, where a
  checkout is given, then its placeholders, then its links.
  A pass can uncover a link that stood inside of another, so
  passes follow until nothing changes, up to a limit. The
  inventory is the one of the corpus before repair.

  Key definitions include:
    * `SourceDocs.LinkRepair`
    * `SourceDocs.LinkRepair.pass`
    * `SourceDocs.LinkRepair.repairDocument`
    * `SourceDocs.Corpus.repair`
-/

------------------------------------------------------------
-- Setting
------------------------------------------------------------

namespace SourceDocs

/- What the repair of a corpus goes by. -/
structure LinkRepair where
  corpus : Corpus
  inventory : Inventory
  sources : Option SourceRepair

namespace LinkRepair

/- The setting for the repair of a corpus. -/
def ofCorpus
    (corpus : Corpus)
    (sources : Option SourceRepair) : LinkRepair :=
  ⟨corpus, Inventory.ofCorpus corpus, sources⟩

------------------------------------------------------------
-- One Pass
------------------------------------------------------------

/- What a link in the document `current` is written as. -/
def writeLink
    (repair : LinkRepair)
    (current : Text)
    (link : Link) : Text :=
  match resolveLink repair.corpus repair.inventory current link
    with
  | .demote => link.label
  | .keep => link.render
  | .redirect target => { link with target }.render

/- Where the entity of a placeholder is documented. -/
def locatePlaceholder?
    (repair : LinkRepair)
    (p : Placeholder) : Option Location :=
  (repair.inventory.locate? p.name).or
    (repair.inventory.locate? p.lastPart)

/- What a placeholder in `current` is written as. -/
def writePlaceholder
    (repair : LinkRepair)
    (current : Text)
    (p : Placeholder) : Text :=
  match repair.locatePlaceholder? p with
  | some location =>
    Link.render ⟨p.name, location.linkFrom current⟩
  | none => p.name

/- A text with its source URLs repaired. -/
def repairSources
    (repair : LinkRepair)
    (t : Text) : Text :=
  match repair.sources with
  | some sources => sources.repairText t
  | none => t

/- A text of `current` with its placeholders written out. -/
def repairPlaceholders
    (repair : LinkRepair)
    (current t : Text) : Text × Nat :=
  Fence.replaceOutside Placeholder.reader
    (fun o => repair.writePlaceholder current o.value) t

/- A text of `current` with its links repaired. -/
def repairLinks
    (repair : LinkRepair)
    (current t : Text) : Text × Nat :=
  Fence.replaceOutside Link.reader
    (fun o => repair.writeLink current o.value) t

/- One pass over a text of the document `current`. -/
def pass
    (repair : LinkRepair)
    (current t : Text) : Text :=
  (repair.repairLinks current
    (repair.repairPlaceholders current
      (repair.repairSources t)).1).1

------------------------------------------------------------
-- Repeating
------------------------------------------------------------

/- A text repaired until it stays, so often at most. -/
def settle
    (repairOnce : Text → Text) : Nat → Text → Text
| 0, t => t
| n + 1, t =>
  let next := repairOnce t
  if next = t then t else settle repairOnce n next

/- How many passes a document gets at most. -/
def passLimit : Nat := 8

/- The text of a document after repair. -/
def repairDocument
    (repair : LinkRepair)
    (d : Document) : Text :=
  settle (repair.pass d.path) passLimit d.text

end LinkRepair

namespace Corpus

/- A corpus with all its documents repaired. -/
def repair
    (corpus : Corpus)
    (sources : Option SourceRepair) : Corpus :=
  corpus.mapTexts
    (LinkRepair.ofCorpus corpus sources).repairDocument

end Corpus

end SourceDocs
