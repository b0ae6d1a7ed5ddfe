import SourceDocs.Text.Basic

/-
  A corpus: documents in the order in which they came, no
  two at the same path.

  Key definitions include:
    * `SourceDocs.Document`
    * `SourceDocs.Corpus`
    * `SourceDocs.Corpus.insert`
    * `SourceDocs.Corpus.get?`
    * `SourceDocs.Corpus.changedFrom`
    * `SourceDocs.Corpus.mapTexts`
-/

------------------------------------------------------------
-- Documents
------------------------------------------------------------

namespace SourceDocs

/- A document: where it belongs and what it says. -/
structure Document where
  path : Text
  text : Text
  deriving DecidableEq, Repr

/- Documents in order, at most one for a path. -/
structure Corpus where
  documents : List Document
  distinct : (documents.map Document.path).Nodup

namespace Corpus

/- Corpora with the same documents in order are equal. -/
theorem ext
    {a b : Corpus}
    (h : a.documents = b.documents) : a = b := by
  cases a
  cases b
  cases h
  rfl

instance : DecidableEq Corpus := fun a b =>
  if h : a.documents = b.documents then
    isTrue (ext h)
  else
    isFalse fun hEq => h (congrArg documents hEq)

/- The corpus without documents. -/
def empty : Corpus :=
  ⟨[], List.nodup_nil⟩

/- The paths of a corpus, in order. -/
def paths (corpus : Corpus) : List Text :=
  corpus.documents.map Document.path

/- How many documents there are. -/
def size (corpus : Corpus) : Nat :=
  corpus.documents.length

------------------------------------------------------------
-- Looking Up
------------------------------------------------------------

/- The text of the document at a path. -/
def get?
    (corpus : Corpus)
    (path : Text) : Option Text :=
  (corpus.documents.find? (·.path == path)).map Document.text

/- Whether there is a document at a path. -/
def contains
    (corpus : Corpus)
    (path : Text) : Bool :=
  corpus.paths.contains path

/- The place of a path in the order. -/
def position?
    (corpus : Corpus)
    (path : Text) : Option Nat :=
  corpus.paths.idxOf? path

------------------------------------------------------------
-- Inserting
------------------------------------------------------------

/-
  Puts a text at a path: in place of the text there, or as a
  new document behind all others.
-/
def insertInto
    (path text : Text) :
    List Document → List Document
| [] => [⟨path, text⟩]
| d :: ds =>
  if d.path = path then ⟨path, text⟩ :: ds
  else d :: insertInto path text ds

/- Inserting adds no path but the one inserted. -/
theorem mem_paths_insertInto
    {path text other : Text}
    {ds : List Document}
    (h :
      other ∈ (insertInto path text ds).map Document.path) :
    other = path ∨ other ∈ ds.map Document.path := by
  induction ds with
  | nil =>
      left
      simpa [insertInto] using h
  | cons d ds ih =>
      by_cases hd : d.path = path
      · right
        simpa [insertInto, hd] using h
      · simp only [insertInto, hd, if_false, List.map_cons,
          List.mem_cons] at h
        rcases h with h | h
        · right
          simp [h]
        · rcases ih h with h | h
          · exact Or.inl h
          · right
            exact List.mem_cons_of_mem _ h

/- Inserting keeps the paths distinct. -/
theorem nodup_insertInto
    {path text : Text}
    {ds : List Document}
    (h : (ds.map Document.path).Nodup) :
    ((insertInto path text ds).map Document.path).Nodup := by
  induction ds with
  | nil => simp [insertInto]
  | cons d ds ih =>
      rw [List.map_cons, List.nodup_cons] at h
      by_cases hd : d.path = path
      · simpa [insertInto, hd] using h
      · simp only [insertInto, hd, if_false, List.map_cons,
          List.nodup_cons]
        refine ⟨fun hMem => ?_, ih h.2⟩
        rcases mem_paths_insertInto hMem with hEq | hMem
        · exact hd hEq
        · exact h.1 hMem

/- Puts a text at a path, at the place of an older one. -/
def insert
    (corpus : Corpus)
    (path text : Text) : Corpus :=
  ⟨insertInto path text corpus.documents,
    nodup_insertInto corpus.distinct⟩

/- The corpus of documents inserted one after another. -/
def ofList (documents : List Document) : Corpus :=
  documents.foldl (fun corpus d => corpus.insert d.path d.text)
    empty

------------------------------------------------------------
-- Changing And Comparing
------------------------------------------------------------

/- The corpus with each text changed in its place. -/
def mapTexts
    (corpus : Corpus)
    (write : Document → Text) : Corpus :=
  ⟨corpus.documents.map fun d => ⟨d.path, write d⟩, by
    simpa [List.map_map, Function.comp_def] using
      corpus.distinct⟩

/- The documents whose text is not the one in `older`. -/
def changedFrom
    (corpus older : Corpus) : List Document :=
  corpus.documents.filter fun d =>
    older.get? d.path ≠ some d.text

end Corpus

end SourceDocs
