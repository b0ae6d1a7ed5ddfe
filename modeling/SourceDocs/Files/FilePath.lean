import SourceDocs.Text.Basic

/-
  Paths of files on disk.

  Key definitions include:
    * `SourceDocs.FilePath.join`
    * `SourceDocs.FilePath.below`
    * `SourceDocs.FilePath.components`
    * `SourceDocs.FilePath.parent?`
    * `SourceDocs.FilePath.lastName?`
    * `SourceDocs.FilePath.extension?`

  Empty segments and `.` never change where a path leads, so
  the components of a path leave them out; `..` is kept, as
  only the disk can tell where it leads.
-/

------------------------------------------------------------
-- Joining
------------------------------------------------------------

namespace SourceDocs

namespace FilePath

/- Whether a path starts at the root of the disk. -/
def isAbsolute : Text → Bool
| '/' :: _ => true
| _ => false

/- A path taken from a directory, unless it is absolute. -/
def join
    (base path : Text) : Text :=
  if isAbsolute path then path
  else if base = [] then path
  else if base.getLast? = some '/' then base ++ path
  else base ++ '/' :: path

/- The path that names lead to, one after another. -/
def below
    (base : Text)
    (names : List Text) : Text :=
  names.foldl join base

------------------------------------------------------------
-- Components
------------------------------------------------------------

/- The segments of a path that name something. -/
def components (path : Text) : List Text :=
  (path.splitOn '/').filter fun s =>
    decide (s ≠ []) && decide (s ≠ ['.'])

/- The path with the given components. -/
def ofComponents (names : List Text) : Text :=
  Text.join ['/'] names

/- The path of the folder that a path leads into last. -/
def parent? (path : Text) : Option Text :=
  match isAbsolute path, (components path).dropLast with
  | true, above =>
    if components path = [] then none
    else some ('/' :: ofComponents above)
  | false, above =>
    if path = [] then none else some (ofComponents above)

/- The last component, if it is a name. -/
def lastName? (path : Text) : Option Text :=
  match (components path).getLast? with
  | none => none
  | some name => if name = ['.', '.'] then none else some name

/-
  The extension of a name: what follows its last dot, where
  a dot in front starts no extension.
-/
def nameExtension? (name : Text) : Option Text :=
  match Text.cutAtLast? (· == '.') name with
  | none => none
  | some (stem, extension) =>
    if stem = [] then none else some extension

/- The extension of the file that a path names. -/
def extension? (path : Text) : Option Text :=
  (lastName? path).bind nameExtension?

end FilePath

end SourceDocs
