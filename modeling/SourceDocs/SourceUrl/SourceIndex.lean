import SourceDocs.Files.Access

/-
  An index of source files by their names.

  The files below a source root are met in the order of a
  walk; for each name the index holds the path of the first.

  Key definitions include:
    * `SourceDocs.SourceIndex`
    * `SourceDocs.SourceIndex.ofFolder`
    * `SourceDocs.SourceIndex.path?`
-/

namespace SourceDocs

/- Paths by file name, in the order of their discovery. -/
structure SourceIndex where
  paths : List (Text × Text)
  deriving DecidableEq, Repr

namespace SourceIndex

------------------------------------------------------------
-- Looking Up
------------------------------------------------------------

/- The path of the first file with this name. -/
def path?
    (index : SourceIndex)
    (name : Text) : Option Text :=
  index.paths.lookup name

/- How many names the index holds. -/
def size (index : SourceIndex) : Nat :=
  index.paths.length

------------------------------------------------------------
-- Indexing
------------------------------------------------------------

/- Folders that are not indexed unless settings say so. -/
def defaultSkipped : List Text :=
  ["bin".toList, "obj".toList, "node_modules".toList,
   ".vs".toList, "packages".toList, "wwwroot".toList]

/- Whether the extension of a name is one of those given. -/
def hasExtension
    (extensions : List Text)
    (name : Text) : Bool :=
  (FilePath.nameExtension? name).any extensions.contains

/- The place that a source root stands for. -/
def place (sourceRoot : Text) : Text :=
  FilePath.join ['.'] sourceRoot

/- The name of a place, or all of it where it has none. -/
def placeName (path : Text) : Text :=
  (FilePath.lastName? path).getD path

/- Enters a file, unless its name is there already. -/
def enter
    (paths : List (Text × Text))
    (name path : Text) : List (Text × Text) :=
  match paths.lookup name with
  | some _ => paths
  | none => paths ++ [(name, path)]

/- Enters the file that names lead to from a base. -/
def enterFile
    (base : List Text)
    (extensions : List Text)
    (paths : List (Text × Text))
    (names : List Text) : List (Text × Text) :=
  let name := names.getLast?.getD []
  if hasExtension extensions name then
    enter paths name (FilePath.ofComponents (base ++ names))
  else paths

/-
  The index of the files below a source root that have one
  of the extensions. Folders with a skipped name are left
  out, the source root among them.
-/
def ofFolder
    (root : Folder)
    (sourceRoot : Text)
    (skipped extensions : List Text) : SourceIndex :=
  let start := place sourceRoot
  match root.folderAt? start with
  | none => ⟨[]⟩
  | some inside =>
    if skipped.contains (placeName start) then ⟨[]⟩
    else
      ⟨((inside.walkFrom start skipped.contains).map
          Prod.fst).foldl
        (enterFile (FilePath.components start) extensions) []⟩

end SourceIndex

end SourceDocs
