import SourceDocs.Failure.Diagnostic
import SourceDocs.Files.Access
import SourceDocs.Glob
import SourceDocs.Settings.Tables

/-
  The settings of a project, checked and ready for use.

  Key definitions include:
    * `SourceDocs.Settings`
    * `SourceDocs.Settings.ofTables`
    * `SourceDocs.Settings.ofText`
    * `SourceDocs.Settings.load`
    * `SourceDocs.Settings.includesFile`

  Settings that load cannot fail later: their globs and
  patterns are read, and their values can be used.
-/

------------------------------------------------------------
-- Settings
------------------------------------------------------------

namespace SourceDocs

/- The settings of a project. -/
structure Settings where
  rules : List Rule
  docs : Text
  skippedFiles : List Glob
  skippedFolders : List Glob
  files : List Glob
  repository : Option UrlTemplate
  resolver : ResolverTable
  sourceRoot : Text
  deriving DecidableEq, Repr

/- How broken patterns and broken TOML are described. -/
structure Wording where
  brokenPattern : Text → Text
  brokenToml : Text → Text

namespace Settings

/- Whether files of a name are extracted from. -/
def includesFile
    (settings : Settings)
    (name : Text) : Bool :=
  settings.files.any (·.accepts name) &&
    !settings.skippedFiles.any (·.accepts name)

/- Whether folders of a name are left out. -/
def skipsFolder
    (settings : Settings)
    (name : Text) : Bool :=
  settings.skippedFolders.any (·.accepts name)

------------------------------------------------------------
-- Checking
------------------------------------------------------------

/- Globs from their texts, up to the first that is broken. -/
def globs (ts : List Text) : Except Failure (List Glob) :=
  ts.mapM fun t =>
    match Glob.ofText t with
    | .ok glob => .ok glob
    | .error fault => .error (.badGlob t fault.message)

/- The template of a repository. -/
def templateOf
    (table : RepositoryTable) : Except Failure UrlTemplate :=
  let url := Text.trim table.url
  if url = [] then
    .error (.badSetting "`repository.url` is empty".toList)
  else if Text.holds table.format UrlTemplate.pathMark then
    .ok (UrlTemplate.ofAddress url table.branch table.format)
  else
    .error
      (.badSetting
        ("`repository.source_url_format` has no `".toList ++
          UrlTemplate.pathMark ++ "` placeholder: `".toList ++
          table.format ++ "`".toList))

/- The table of what is indexed, extensions without dots. -/
def withoutDots (table : ResolverTable) : ResolverTable :=
  { table with
    extensions :=
      table.extensions.map (·.dropWhile (· == '.')) }

/- The settings of tables, or the first thing wrong. -/
def ofTables
    (wording : Wording)
    (tables : SettingsTables) : Except Failure Settings := do
  if tables.source.files = [] then
    throw
      (.badSetting
        "`source.extensions` must list at least one glob".toList)
  let repository ← tables.repository.mapM templateOf
  let rules ← Rule.ofTexts wording.brokenPattern tables.rules
  let skippedFiles ← globs tables.source.skippedFiles
  let skippedFolders ← globs tables.source.skippedFolders
  let files ← globs tables.source.files
  return {
    rules
    docs := tables.docs
    skippedFiles
    skippedFolders
    files
    repository
    resolver := withoutDots tables.resolver
    sourceRoot := tables.source.root }

/- The settings that a TOML document gives. -/
def ofText
    (wording : Wording)
    (t : Text) : Except Failure Settings :=
  match SettingsTables.ofText? t with
  | none => .error (.toml (wording.brokenToml t))
  | some tables => ofTables wording tables

/- Where the settings of a project are. -/
def path : Text :=
  FilePath.join ['.'] settingsFile

/- The settings of a project; defaults if it has no file. -/
def load
    (wording : Wording)
    (root : Folder) : Except Failure Settings :=
  match root.readText path with
  | .ok t => ofText wording t
  | .error .notFound => ofTables wording .default
  | .error fault => .error (.file fault.message)

/- Where the documents of a project are. -/
def docsPath (settings : Settings) : Text :=
  FilePath.join ['.'] settings.docs

/- Where the sources of a project are. -/
def sourcePath (settings : Settings) : Text :=
  FilePath.join ['.'] settings.sourceRoot

end Settings

end SourceDocs
