import SourceDocs.Command.Basic
import SourceDocs.Command.Outcome
import SourceDocs.Command.Reference
import SourceDocs.Corpus.InventoryReport
import SourceDocs.LinkRepair.Documents
import SourceDocs.Survey

/-
  Running commands in a project folder.

  Key definitions include:
    * `SourceDocs.Settings.sourceRepair?`
    * `SourceDocs.DocsRepair`
    * `SourceDocs.DocsRepair.ofFolder`
    * `SourceDocs.Command.run`
-/

------------------------------------------------------------
-- Reports
------------------------------------------------------------

namespace SourceDocs

/- A JSON value as output, in one line or in several. -/
def Json.printed
    (isCompact : Bool)
    (v : Json) : Text :=
  Text.line (if isCompact then v.compact else v.pretty)

namespace Command

/- Shows the classification of a path. -/
def classifyPath
    (settings : Settings)
    (path : Text) : Text :=
  let c := Classification.ofPath settings.rules path
  let shown (t : Option Text) := t.getD ['-']
  Text.ofLines
    ["category:  ".toList ++ c.category,
     "doc_file:  ".toList ++ shown c.docFile,
     "doc_title: ".toList ++ shown c.docTitle]

/- Prints the survey of the source tree. -/
def runExtract
    (settings : Settings)
    (root : Folder)
    (isCompact : Bool) : Outcome :=
  let files := survey settings root
  .success root
    ((Json.ofList SurveyedFile.toJson files).printed isCompact)
    (Text.line
      ("Extracted ".toList ++ Text.ofNat files.length ++
        " files".toList))

/- Prints the inventory of a corpus. -/
def runInventory
    (root : Folder)
    (corpus : Corpus)
    (asJson : Bool) : Outcome :=
  let inventory := Inventory.ofCorpus corpus
  if asJson then
    .success root ((inventory.toJson corpus).printed false) []
  else
    .success root (Text.ofLines (inventory.report corpus))
      (Text.line
        (Text.ofNat corpus.size ++ " documents, ".toList ++
          Text.ofNat inventory.entities.length ++
          " entities".toList))

/- Prints the reference. -/
def runInfo
    (wording : Wording)
    (root : Folder)
    (asJson : Bool) : Outcome :=
  let state := ProjectState.ofFolder wording root
  .success root
    (if asJson then state.toJson.printed false
     else Text.ofLines state.page)
    []

end Command

------------------------------------------------------------
-- Repair
------------------------------------------------------------

/- What source URLs are repaired by. -/
def Settings.sourceRepair?
    (settings : Settings)
    (root : Folder) : Option SourceRepair :=
  settings.repository.map fun template =>
    { checkout := root
      template
      index :=
        SourceIndex.ofFolder root settings.resolver.root
          settings.resolver.skipped
          settings.resolver.extensions
      extensions := settings.resolver.extensions }

/- A corpus before and after its repair. -/
structure DocsRepair where
  settings : Settings
  corpus : Corpus
  repaired : Corpus

namespace DocsRepair

/- The repair of the corpus of a project. -/
def ofFolder
    (wording : Wording)
    (root : Folder) : Except Failure DocsRepair := do
  let settings ← Settings.load wording root
  let corpus ← Corpus.load root settings.docsPath
  return ⟨settings, corpus,
    corpus.repair (settings.sourceRepair? root)⟩

/- The documents that the repair changes. -/
def changed (repair : DocsRepair) : List Document :=
  repair.repaired.changedFrom repair.corpus

/- How many documents there are, in words. -/
def total (repair : DocsRepair) : Text :=
  Text.ofNat repair.corpus.size

/- How many documents the repair changes, in words. -/
def changedCount (repair : DocsRepair) : Text :=
  Text.ofNat repair.changed.length

/- Reports the documents that would change. -/
def check
    (repair : DocsRepair)
    (root : Folder) : Outcome :=
  let found :=
    repair.changed.map fun d =>
      "NEEDS REPAIR  ".toList ++ d.path
  if repair.changed.isEmpty then
    .success root
      (Text.line
        ("All ".toList ++ repair.total ++
          " documents clean".toList))
      []
  else
    { code := 1
      output :=
        Text.ofLines
          (found ++
            [[],
             repair.changedCount ++ " of ".toList ++
               repair.total ++
               " documents need repair".toList])
      errors :=
        Text.line
          ("hint: run `docmend resolve` to ".toList ++
            "rewrite them in place".toList)
      folder := root }

/- Writes the whole corpus below another folder. -/
def writeInto
    (repair : DocsRepair)
    (root : Folder)
    (path : Text) : Outcome :=
  let written := repair.repaired.write root path
  match written.fault with
  | some fault =>
    .ofFailure written.folder [] (.file fault.message)
  | none =>
    .success written.folder []
      (Text.line
        ("Wrote ".toList ++ repair.total ++
          " documents to ".toList ++ path ++ " (".toList ++
          repair.changedCount ++ " repaired)".toList))

/-
  Writes changed documents where they are. Those written
  before a fault are reported.
-/
def writeChanged
    (path : Text)
    (output : Text) :
    Folder → List Document → Text × Written
| root, [] => (output, .done root)
| root, d :: ds =>
  let written := Corpus.writeDocument root path d
  match written.fault with
  | some _ => (output, written)
  | none =>
    writeChanged path
      (output ++ Text.line ("REPAIRED  ".toList ++ d.path))
      written.folder ds

/- Writes the documents that change in place. -/
def writeInPlace
    (repair : DocsRepair)
    (root : Folder) : Outcome :=
  let (output, written) :=
    writeChanged repair.settings.docsPath [] root
      repair.changed
  match written.fault with
  | some fault =>
    .ofFailure written.folder output (.file fault.message)
  | none =>
    .success written.folder output
      (Text.line
        ("Repaired ".toList ++ repair.changedCount ++
          " of ".toList ++ repair.total ++
          " documents in ".toList ++ repair.settings.docs))

end DocsRepair

------------------------------------------------------------
-- Commands
------------------------------------------------------------

namespace Command

/- Repairs the corpus of a project. -/
def runResolve
    (wording : Wording)
    (root : Folder)
    (mode : RepairMode) : Except Failure Outcome := do
  let repair ← DocsRepair.ofFolder wording root
  match mode with
  | .check => return repair.check root
  | .into path => return repair.writeInto root path
  | .inPlace => return repair.writeInPlace root

/- What a command does in a project folder. -/
def run
    (wording : Wording)
    (root : Folder)
    (command : Command) : Outcome :=
  .ofExcept root
    (match command with
     | .classify path => do
       let settings ← Settings.load wording root
       return .success root (classifyPath settings path) []
     | .extract isCompact => do
       let settings ← Settings.load wording root
       return runExtract settings root isCompact
     | .info asJson => return runInfo wording root asJson
     | .inventory asJson => do
       let settings ← Settings.load wording root
       let corpus ← Corpus.load root settings.docsPath
       return runInventory root corpus asJson
     | .resolve mode => runResolve wording root mode)

end Command

end SourceDocs
