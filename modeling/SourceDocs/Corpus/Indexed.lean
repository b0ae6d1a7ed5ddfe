import Mathlib.Data.List.Basic
import SourceDocs.Corpus.Basic

/-
  A corpus with an index, so that the document at a path is
  found without going through all the others.

  The documents stand in a row in the order in which they
  came. The index gives the place of each path in the row.

  Key definitions include:
    * `SourceDocs.IndexedCorpus`
    * `SourceDocs.IndexedCorpus.insert`
    * `SourceDocs.IndexedCorpus.get?`
    * `SourceDocs.IndexedCorpus.changedFrom`
-/

------------------------------------------------------------
-- Documents And Index
------------------------------------------------------------

namespace SourceDocs

/- Paths are hashed as strings. -/
instance : Hashable Text :=
  ⟨fun t => hash (String.ofList t)⟩

/- Documents in order, and places in the order by path. -/
structure IndexedCorpus where
  documents : Array Document
  index : Std.HashMap Text Nat

namespace IndexedCorpus

/- The corpus without documents. -/
def empty : IndexedCorpus :=
  ⟨#[], ∅⟩

/- How many documents there are. -/
def size (corpus : IndexedCorpus) : Nat :=
  corpus.documents.size

/- The paths of a corpus, in order. -/
def paths (corpus : IndexedCorpus) : List Text :=
  corpus.documents.toList.map Document.path

------------------------------------------------------------
-- Looking Up
------------------------------------------------------------

/- The text at the place that the index has for a path. -/
def get?
    (corpus : IndexedCorpus)
    (path : Text) : Option Text :=
  corpus.index[path]?.bind fun place =>
    corpus.documents[place]?.map Document.text

/- Whether the index knows a path. -/
def contains
    (corpus : IndexedCorpus)
    (path : Text) : Bool :=
  corpus.index.contains path

/- The place of a path, if there is a document in it. -/
def slot?
    (corpus : IndexedCorpus)
    (path : Text) : Option Nat :=
  corpus.index[path]?.filter (· < corpus.documents.size)

------------------------------------------------------------
-- Inserting And Comparing
------------------------------------------------------------

/-
  Puts a text at a path: in the place that the path has, or
  behind all others, with a new entry in the index.
-/
def insert
    (corpus : IndexedCorpus)
    (path text : Text) : IndexedCorpus :=
  match corpus.slot? path with
  | some place =>
    { corpus with
      documents :=
        corpus.documents.modify place
          fun d => { d with text := text } }
  | none =>
    ⟨corpus.documents.push ⟨path, text⟩,
      corpus.index.insert path corpus.documents.size⟩

/- The corpus of documents inserted one after another. -/
def ofList (documents : List Document) : IndexedCorpus :=
  documents.foldl (fun corpus d => corpus.insert d.path d.text)
    empty

/- The documents whose text is not the one in `older`. -/
def changedFrom
    (corpus older : IndexedCorpus) : List Document :=
  corpus.documents.toList.filter fun d =>
    older.get? d.path ≠ some d.text

end IndexedCorpus

end SourceDocs
