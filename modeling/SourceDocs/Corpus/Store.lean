import SourceDocs.Corpus.Basic
import SourceDocs.Failure.Basic
import SourceDocs.Files.Access

/-
  Corpora on disk: a corpus is the Markdown documents below a
  folder, in the order of the walk through it.

  Key definitions include:
    * `SourceDocs.Corpus.load`
    * `SourceDocs.Corpus.writeDocument`
    * `SourceDocs.Corpus.write`
-/

------------------------------------------------------------
-- Loading
------------------------------------------------------------

namespace SourceDocs

namespace Corpus

/- The extension of documents. -/
def documentExtension : Text :=
  "md".toList

/- Whether names lead to a document. -/
def isDocument (names : List Text) : Bool :=
  names.getLast?.any fun name =>
    FilePath.nameExtension? name == some documentExtension

/- The document in a file below a path. -/
def readDocument
    (path : Text)
    (names : List Text)
    (content : Content) : Except Failure Document :=
  match content.readAt (FilePath.below path names) with
  | .ok t => .ok ⟨FilePath.ofComponents names, t⟩
  | .error fault => .error (.file fault.message)

/- The corpus below the folder that a path leads to. -/
def load
    (root : Folder)
    (path : Text) : Except Failure Corpus :=
  match root.folderAt? path with
  | none => .error (.pathNotFound path)
  | some folder => do
    let met := folder.walkFrom path fun _ => false
    let found := met.filter (isDocument ·.1)
    let documents ← found.mapM fun (names, content) =>
      readDocument path names content
    return ofList documents

------------------------------------------------------------
-- Writing
------------------------------------------------------------

/- Writes a document below the folder of a path. -/
def writeDocument
    (root : Folder)
    (path : Text)
    (d : Document) : Written :=
  root.writeFile (FilePath.join path d.path) d.text

/- Writes documents one after another, up to a fault. -/
def writeAll
    (path : Text) :
    Folder → List Document → Written
| root, [] => .done root
| root, d :: ds =>
  (writeDocument root path d).andThen fun written =>
    writeAll path written ds

/- Writes a corpus below the folder of a path. -/
def write
    (corpus : Corpus)
    (root : Folder)
    (path : Text) : Written :=
  writeAll path root corpus.documents

end Corpus

end SourceDocs
