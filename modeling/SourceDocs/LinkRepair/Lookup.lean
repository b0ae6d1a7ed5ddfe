import SourceDocs.Corpus.Inventory
import SourceDocs.DocPath

/-
  Finding the document that a link means.

  A link's path is tried as it is written, with its percent
  codes decoded, from the root of the corpus, and without
  doubled directories; after that the first document with
  the same file name is taken. Names that generators are
  known to invent stand for other documents.

  Key definitions include:
    * `SourceDocs.Corpus.lookup?`
    * `SourceDocs.Corpus.lookupAliased?`
-/

------------------------------------------------------------
-- Documents By Path
------------------------------------------------------------

namespace SourceDocs

/- Whether the file name of a path is the one given. -/
def hasFileName
    (name path : Text) : Bool :=
  path == name || ('/' :: name).isSuffixOf path

namespace Corpus

/- The first document with a file name. -/
def byFileName?
    (corpus : Corpus)
    (name : Text) : Option Text :=
  corpus.paths.find? (hasFileName name)

/- A path without doubled directories, if that is known. -/
def collapsed?
    (corpus : Corpus)
    (path : Text) : Option Text :=
  (DocPath.collapse? path).filter corpus.contains

/-
  The document for a path that a link resolves to; `written`
  is the path as the link has it.
-/
def lookup?
    (corpus : Corpus)
    (candidate written : Text) : Option Text :=
  let decoded := PercentCode.decode candidate
  let rooted := DocPath.normalize (PercentCode.decode written)
  ([candidate, decoded, rooted].find? corpus.contains).or
    ((corpus.collapsed? decoded).or
      (corpus.byFileName? (DocPath.fileName decoded)))

------------------------------------------------------------
-- Aliases
------------------------------------------------------------

/- Invented names and the names they usually stand for. -/
def aliases : List (Text × List Text) :=
  [("BaseDomainDefinition.md".toList, ["Models.md".toList]),
   ("Data Interactions.md".toList,
     ["DataContext.md".toList]),
   ("DataInteraction.md".toList, ["Repositories.md".toList]),
   ("DomainEvent.md".toList, ["Models.md".toList]),
   ("Entities.md".toList,
     ["Aggregate.md".toList, "Models.md".toList]),
   ("ValueObject.md".toList,
     ["Models.md".toList, "Aggregate.md".toList])]

/- A path up to its last slash, that one included. -/
def directoryPart (path : Text) : Text :=
  path.take (path.length - (DocPath.fileName path).length)

/- The paths that an invented one may stand for. -/
def aliasesOf (candidate : Text) : List Text :=
  let decoded := PercentCode.decode candidate
  ((aliases.lookup (DocPath.fileName decoded)).getD []).map
    (directoryPart decoded ++ ·)

/- The document for a path, or for what the path stands for. -/
def lookupAliased?
    (corpus : Corpus)
    (candidate written : Text) : Option Text :=
  (corpus.lookup? candidate written).or
    ((aliasesOf candidate).findSome? fun other =>
      corpus.lookup? other other)

end Corpus

end SourceDocs
