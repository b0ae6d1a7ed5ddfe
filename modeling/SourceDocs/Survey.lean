import SourceDocs.Declaration.Extraction
import SourceDocs.Declaration.Report
import SourceDocs.DocPath
import SourceDocs.Settings.Basic

/-
  The survey of a source tree: every source file with its
  declarations, its classification and its URLs.

  Key definitions include:
    * `SourceDocs.SurveyedFile`
    * `SourceDocs.SurveyedFile.ofSource`
    * `SourceDocs.survey`
    * `SourceDocs.SurveyedFile.toJson`
-/

------------------------------------------------------------
-- Files
------------------------------------------------------------

namespace SourceDocs

/- A source file and what is known of it. -/
structure SurveyedFile where
  classification : Classification
  record : SourceFile
  url : Option Text
  typeUrls : List (Text × Text)
  deriving DecidableEq, Repr

namespace SurveyedFile

/- Enters a name in order, unless it is there already. -/
def enter
    (name url : Text) : List (Text × Text) → List (Text × Text)
| [] => [(name, url)]
| (n, u) :: rest =>
  if name = n then (n, u) :: rest
  else if name < n then (name, url) :: (n, u) :: rest
  else (n, u) :: enter name url rest

/- The path in the repository of a path below the root. -/
def repositoryPath (sourceRoot path : Text) : Text :=
  DocPath.normalize (sourceRoot ++ '/' :: path)

/- The URLs of types: of two with a name the first counts. -/
def typeUrlsOf
    (template : UrlTemplate)
    (path : Text)
    (types : List TypeDeclaration) : List (Text × Text) :=
  types.foldl
    (fun urls t =>
      enter t.name
        (template.build path (some (keptLine t.line))) urls)
    []

/- What is known of a source file with a text. -/
def ofSource
    (settings : Settings)
    (path t : Text) : SurveyedFile :=
  let record := SourceFile.ofText path t
  let target := repositoryPath settings.sourceRoot path
  { classification := .ofPath settings.rules path
    record
    url := settings.repository.map (·.build target none)
    typeUrls :=
      match settings.repository with
      | some template =>
        typeUrlsOf template target record.types
      | none => [] }

end SurveyedFile

------------------------------------------------------------
-- Trees
------------------------------------------------------------

/- A file of the tree, if it is a source file with a text. -/
def surveyFile?
    (settings : Settings)
    (names : List Text)
    (content : Content) : Option SurveyedFile :=
  if names.getLast?.any settings.includesFile then
    match
        content.readAt
          (FilePath.below settings.sourcePath names) with
    | .ok t =>
      some (.ofSource settings (FilePath.ofComponents names) t)
    | .error _ => none
  else none

/- The source files of a project, in the order of the walk. -/
def survey
    (settings : Settings)
    (root : Folder) : List SurveyedFile :=
  match root.folderAt? settings.sourcePath with
  | none => []
  | some tree =>
    (tree.walkFrom settings.sourcePath
        settings.skipsFolder).filterMap
      fun (names, content) =>
        surveyFile? settings names content

------------------------------------------------------------
-- JSON
------------------------------------------------------------

/- The fields of a classification as JSON. -/
def Classification.fields
    (c : Classification) : List (String × Json) :=
  [("category", .text c.category),
   ("doc_file", .ofText? c.docFile),
   ("doc_title", .ofText? c.docTitle)]

/- URLs by name as JSON. -/
def urlsToJson (urls : List (Text × Text)) : Json :=
  .object (urls.map fun (name, url) => (name, .text url))

/- A file as JSON; URLs that it lacks are left out. -/
def SurveyedFile.toJson (file : SurveyedFile) : Json :=
  let url :=
    match file.url with
    | some u => [("source_url", Json.text u)]
    | none => []
  let typeUrls :=
    if file.typeUrls = [] then []
    else [("type_urls", urlsToJson file.typeUrls)]
  .record
    (file.classification.fields ++ file.record.fields ++
      url ++ typeUrls)

end SourceDocs
