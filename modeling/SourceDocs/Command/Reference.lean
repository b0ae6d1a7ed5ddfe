import SourceDocs.Corpus.Store
import SourceDocs.Json
import SourceDocs.Settings.Basic

/-
  The reference of the program: its commands, its settings,
  and what it finds in the project.

  Key definitions include:
    * `SourceDocs.ProjectState`
    * `SourceDocs.ProjectState.ofFolder`
    * `SourceDocs.ProjectState.page`
    * `SourceDocs.ProjectState.toJson`
-/

------------------------------------------------------------
-- State
------------------------------------------------------------

namespace SourceDocs

/- The version of the program. -/
def version : Text :=
  "0.1.0".toList

/- What is found in a project. -/
structure ProjectState where
  isConfigured : Bool
  settings : Except Failure Settings
  documents : Option Nat

namespace ProjectState

/- How many documents the settings lead to. -/
def countDocuments
    (root : Folder)
    (settings : Settings) : Option Nat :=
  match Corpus.load root settings.docsPath with
  | .ok corpus => some corpus.size
  | .error _ => none

/- What is found in the project of a folder. -/
def ofFolder
    (wording : Wording)
    (root : Folder) : ProjectState :=
  let settings := Settings.load wording root
  { isConfigured := root.holds Settings.path
    settings
    documents :=
      match settings with
      | .ok s => countDocuments root s
      | .error _ => none }

------------------------------------------------------------
-- Page
------------------------------------------------------------

/- The title of the page and what the program is for. -/
def introduction : List Text :=
  ["# docmend ".toList ++ version] ++
  ["",
   "Structural extraction for C# sources and link repair " ++
    "for generated markdown",
   "documentation. Declarations are recovered with anchored " ++
    "regexes plus",
   "brace-depth scanning; broken intra-corpus links and " ++
    "source URLs are repaired",
   "against the real document inventory and checkout.",
   ""].map String.toList

/- The section on the commands. -/
def commandSection : List Text :=
  ["## Commands",
   "",
   "    docmend extract [--compact]            Print the " ++
    "classified declaration model as JSON",
   "    docmend classify <PATH>                Show which " ++
    "rule a source path falls under",
   "    docmend inventory [--json]             List heading " ++
    "anchors and the entity map",
   "    docmend resolve                        Repair links " ++
    "in the docs corpus in place",
   "    docmend resolve --out <DIR>            Write the " ++
    "repaired corpus elsewhere",
   "    docmend resolve --check                Report " ++
    "documents needing repair (exit 1)",
   "    docmend info [--json]                  This " ++
    "reference",
   "",
   "Global: `--verbose` enables info-level logs (otherwise " ++
    "`RUST_LOG`, default `warn`).",
   ""].map String.toList

/- The section on the ways to mend a link. -/
def repairSection : List Text :=
  ["## Link Repair Order",
   "",
   "    exact path -> percent-decoded -> root-relative -> " ++
    "duplicate segment collapse",
   "    -> file-name match -> alias table -> entity (label, " ++
    "anchor, file stem)",
   "    -> demote to plain text",
   ""].map String.toList

/- The section on the settings file. -/
def settingsSection : List Text :=
  ["## Configuration (.docmend.toml)",
   "",
   "    [source]",
   "    root = \"src\"                          # tree to " ++
    "extract from",
   "    extensions = [\"*.cs\"]                 # file-name " ++
    "globs",
   "    exclude_folders = [\"bin\", \"obj\"]      # " ++
    "directory-name globs",
   "    exclude_files = [\"*.Designer.cs\"]     # file-name " ++
    "globs",
   "",
   "    [docs]",
   "    dir = \"docs\"                          # generated " ++
    "corpus",
   "",
   "    [repository]",
   "    url = \"https://github.com/org/repo\"   # enables " ++
    "source URL repair",
   "    branch = \"main\"",
   "    source_url_format = \"\x7brepo_url\x7d/blob/" ++
    "\x7bbranch\x7d/\x7bfile_path\x7d#L\x7bline\x7d\"",
   "",
   "    [resolver]",
   "    source_root = \"src\"                   # subtree " ++
    "indexed by file name",
   "    source_extensions = [\"cs\"]",
   "    skip_dirs = [\"bin\", \"obj\", \"node_modules\"]",
   "",
   "    [[classification_rules]]",
   "    pattern = \"CommandHandler\\\\.cs$\"",
   "    category = \"command_handler\"",
   "    doc_file = \"Commands.md\"",
   "    doc_title = \"Commands\"",
   ""].map String.toList

/- The rules in one line. -/
def rulesLine (rules : List Rule) : Text :=
  if rules = [] then
    "(none, everything is `other`)".toList
  else
    Text.join ", ".toList
      (rules.map fun rule =>
        rule.written.pattern ++ " -> ".toList ++
          rule.written.outcome.category)

/- The documents in one line. -/
def docsLine
    (settings : Settings)
    (documents : Option Nat) : Text :=
  settings.docs ++
    match documents with
    | some n => " (".toList ++ Text.ofNat n ++
        " documents)".toList
    | none => " (not found)".toList

/- The repository in one line. -/
def repositoryLine : Option UrlTemplate → Text
| some template => template.repository
| none => "(none, source URL repair disabled)".toList

/- Where the settings come from. -/
def settingsLine (state : ProjectState) : Text :=
  settingsFile ++
    match state.settings with
    | .error failure =>
      " (invalid: ".toList ++ failure.message ++ [')']
    | .ok _ =>
      if state.isConfigured then " (found)".toList
      else " (not found, using defaults)".toList

/- The lines on what is found. -/
def stateLines (state : ProjectState) : List Text :=
  ("Config:     ".toList ++ state.settingsLine) ::
    match state.settings with
    | .error _ => []
    | .ok settings =>
      ["Source:     ".toList ++ settings.sourceRoot,
       "Docs:       ".toList ++
         docsLine settings state.documents,
       "Repository: ".toList ++
         repositoryLine settings.repository,
       "Rules:      ".toList ++ rulesLine settings.rules]

/- The section on the exit codes. -/
def exitSection : List Text :=
  ["## Exit Codes",
   "",
   "| Code | Meaning |",
   "|------|---------|",
   "| 0    | Success / corpus clean |",
   "| 1    | `resolve --check` found documents needing " ++
    "repair |",
   "| 2    | Configuration or runtime error |"].map
    String.toList

/- The reference as a page. -/
def page (state : ProjectState) : List Text :=
  introduction ++ commandSection ++ repairSection ++
    settingsSection ++
    ["## Current State".toList, []] ++ state.stateLines ++
    [[]] ++ exitSection

------------------------------------------------------------
-- JSON
------------------------------------------------------------

/- The uses of the program, each with what it does. -/
def uses : List (String × String) :=
  [("docmend extract [--compact]",
    "Print the classified declaration model as JSON"),
   ("docmend classify <PATH>",
    "Show which rule a source path falls under"),
   ("docmend inventory [--json]",
    "List heading anchors and the entity map"),
   ("docmend resolve [--check] [--out <DIR>]",
    "Repair links in the docs corpus"),
   ("docmend info [--json]", "Print this reference")]

/- The exit codes, each with its meaning. -/
def exitCodes : List (Nat × String) :=
  [(0, "Success / corpus clean"),
   (1, "resolve --check found documents needing repair"),
   (2, "Configuration or runtime error")]

/- A rule as JSON. -/
def ruleToJson (rule : Rule) : Json :=
  .record
    [("category", .text rule.written.outcome.category),
     ("pattern", .text rule.written.pattern)]

/- A number, or null where there is none. -/
def numberOrNull : Option Nat → Json
| some n => .number n
| none => .null

/- What is found as JSON; empty where settings fail. -/
def stateToJson (state : ProjectState) : Json :=
  let found := state.settings.toOption
  let failure :=
    match state.settings with
    | .error failure => some failure.message
    | .ok _ => none
  .record
    [("config_error", .ofText? failure),
     ("config_found", .bool state.isConfigured),
     ("docs_dir", .text ((found.map (·.docs)).getD [])),
     ("documents", numberOrNull state.documents),
     ("repository",
      .ofText?
        ((found.bind (·.repository)).map (·.repository))),
     ("rules",
      .ofList ruleToJson ((found.map (·.rules)).getD [])),
     ("source_root",
      .text ((found.map (·.sourceRoot)).getD []))]

/- The reference as JSON. -/
def toJson (state : ProjectState) : Json :=
  .record
    [("commands",
      .ofList
        (fun (usage, description) =>
          .record
            [("description", .text description.toList),
             ("usage", .text usage.toList)])
        uses),
     ("current_state", state.stateToJson),
     ("exit_codes",
      .ofList
        (fun (code, meaning) =>
          .record
            [("code", .number code),
             ("meaning", .text meaning.toList)])
        exitCodes),
     ("version", .text version)]

end ProjectState

end SourceDocs
