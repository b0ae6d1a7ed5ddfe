import SourceDocs.Classification
import SourceDocs.Settings.Fields
import SourceDocs.SourceUrl.SourceIndex
import SourceDocs.SourceUrl.Template

/-
  The tables of the settings file, as they are written.

  Key definitions include:
    * `SourceDocs.SettingsTables`
    * `SourceDocs.SettingsTables.default`
    * `SourceDocs.SettingsTables.ofText?`

  What a table leaves out has its default. A name that means
  nothing is refused, except in a classification rule.
-/

------------------------------------------------------------
-- Tables
------------------------------------------------------------

namespace SourceDocs

/- The table of the repository. -/
structure RepositoryTable where
  branch : Text
  format : Text
  url : Text
  deriving DecidableEq, Repr

/- The table of what is indexed to repair source URLs. -/
structure ResolverTable where
  skipped : List Text
  extensions : List Text
  root : Text
  deriving DecidableEq, Repr

/- The table of what declarations are extracted from. -/
structure SourceTable where
  skippedFiles : List Text
  skippedFolders : List Text
  files : List Text
  root : Text
  deriving DecidableEq, Repr

/- All tables of the settings. -/
structure SettingsTables where
  rules : List RuleText
  docs : Text
  repository : Option RepositoryTable
  resolver : ResolverTable
  source : SourceTable
  deriving DecidableEq, Repr

/- What is indexed where nothing else is said. -/
def ResolverTable.default : ResolverTable :=
  ⟨SourceIndex.defaultSkipped, ["cs".toList], "src".toList⟩

/- What is extracted from where nothing else is said. -/
def SourceTable.default : SourceTable :=
  ⟨[], [], ["*.cs".toList], ".".toList⟩

/- The settings of a project without a settings file. -/
def SettingsTables.default : SettingsTables :=
  ⟨[], "docs".toList, none, .default, .default⟩

------------------------------------------------------------
-- Reading
------------------------------------------------------------

/- A record in which no other names may occur. -/
def TomlFields.closed?
    (names : List String)
    (v : TomlValue) : Option TomlFields :=
  ofValue? (names.map String.toList) true v

/- Reads a classification rule. -/
def RuleText.ofValue? (v : TomlValue) : Option RuleText := do
  let names :=
    ["category", "doc_file", "doc_title", "pattern"]
  let fields ←
    TomlFields.ofValue? (names.map String.toList) false v
  let category ← fields.required? "category" (·.text?)
  let docFile ← fields.optional? "doc_file" (·.text?)
  let docTitle ← fields.optional? "doc_title" (·.text?)
  let pattern ← fields.required? "pattern" (·.text?)
  return ⟨pattern, ⟨category, docFile, docTitle⟩⟩

/- Reads the table of the corpus: the folder it is in. -/
def docsOfValue? (v : TomlValue) : Option Text := do
  let fields ← TomlFields.closed? ["dir"] v
  fields.withDefault? "dir" (·.text?)
    SettingsTables.default.docs

/- Reads the table of the repository. -/
def RepositoryTable.ofValue?
    (v : TomlValue) : Option RepositoryTable := do
  let fields ←
    TomlFields.closed? ["branch", "source_url_format", "url"] v
  return {
    branch :=
      ← fields.withDefault? "branch" (·.text?) "main".toList
    format :=
      ← fields.withDefault? "source_url_format" (·.text?)
        UrlTemplate.defaultFormat
    url := ← fields.required? "url" (·.text?) }

/- Reads the table of what is indexed. -/
def ResolverTable.ofValue?
    (v : TomlValue) : Option ResolverTable := do
  let fields ←
    TomlFields.closed?
      ["skip_dirs", "source_extensions", "source_root"] v
  return {
    skipped :=
      ← fields.withDefault? "skip_dirs" (·.texts?)
        default.skipped
    extensions :=
      ← fields.withDefault? "source_extensions" (·.texts?)
        default.extensions
    root :=
      ← fields.withDefault? "source_root" (·.text?)
        default.root }

/- Reads the table of what is extracted from. -/
def SourceTable.ofValue?
    (v : TomlValue) : Option SourceTable := do
  let fields ←
    TomlFields.closed?
      ["exclude_files", "exclude_folders", "extensions",
       "root"] v
  return {
    skippedFiles :=
      ← fields.withDefault? "exclude_files" (·.texts?)
        default.skippedFiles
    skippedFolders :=
      ← fields.withDefault? "exclude_folders" (·.texts?)
        default.skippedFolders
    files :=
      ← fields.withDefault? "extensions" (·.texts?)
        default.files
    root :=
      ← fields.withDefault? "root" (·.text?) default.root }

namespace SettingsTables

/- Reads all the tables. -/
def ofValue? (v : TomlValue) : Option SettingsTables := do
  let fields ←
    TomlFields.closed?
      ["classification_rules", "docs", "repository",
       "resolver", "source"] v
  let rulesOf (v : TomlValue) :=
    v.items?.bind (·.mapM RuleText.ofValue?)
  return {
    rules :=
      ← fields.withDefault? "classification_rules" rulesOf
        default.rules
    docs := ← fields.withDefault? "docs" docsOfValue? default.docs
    repository :=
      ← fields.optional? "repository" RepositoryTable.ofValue?
    resolver :=
      ← fields.withDefault? "resolver" ResolverTable.ofValue?
        default.resolver
    source :=
      ← fields.withDefault? "source" SourceTable.ofValue?
        default.source }

/- The tables that a TOML document gives. -/
def ofText? (t : Text) : Option SettingsTables :=
  (TomlTable.ofText? t).bind fun root =>
    ofValue? (.table .stated root)

end SettingsTables

end SourceDocs
