import SourceDocs.PercentCode

/-
  Paths of documents, such as `Project/File.md`.

  A path is a text; its segments are parted by slashes. It
  names a document of a corpus and never a place on disk.

  Key definitions include:
    * `SourceDocs.DocPath.normalize`
    * `SourceDocs.DocPath.resolve`
    * `SourceDocs.DocPath.relativeLink`
    * `SourceDocs.DocPath.collapse?`
    * `SourceDocs.DocPath.fileName`
    * `SourceDocs.DocPath.fileStem`
-/

------------------------------------------------------------
-- Segments
------------------------------------------------------------

namespace SourceDocs

namespace DocPath

/- The segments of a path, the empty ones included. -/
def segments (path : Text) : List Text :=
  path.splitOn '/'

/- The path with the given segments. -/
def ofSegments (ss : List Text) : Text :=
  Text.join ['/'] ss

/- The segments of a path that are not empty. -/
def names (path : Text) : List Text :=
  (segments path).filter (· ≠ [])

/- The segments of the directory that a document is in. -/
def directory (path : Text) : List Text :=
  (names path).dropLast

/- The last segment of a path. -/
def fileName (path : Text) : Text :=
  Text.afterLast '/' path

/- The last segment without its last extension. -/
def fileStem (path : Text) : Text :=
  match Text.cutAtLast? (· == '.') (fileName path) with
  | some (stem, _) => stem
  | none => fileName path

------------------------------------------------------------
-- Normal Paths
------------------------------------------------------------

/-
  One segment read from the left, on a stack of names whose
  top is its head: nothing and `.` stay, `..` goes up, at
  the root in vain.
-/
def step
    (stack : List Text)
    (segment : Text) : List Text :=
  if segment = [] ∨ segment = ['.'] then stack
  else if segment = ['.', '.'] then stack.tail
  else segment :: stack

/- The names that segments lead to, from the root. -/
def walk (ss : List Text) : List Text :=
  (ss.foldl step []).reverse

/- A path with slashes for its backslashes. -/
def unify (path : Text) : Text :=
  Text.replaceChar '\\' '/' path

/- A path without empty segments, `.` and `..`. -/
def normalize (path : Text) : Text :=
  ofSegments (walk (segments (unify path)))

/-
  The path that a link target stands for in a document: one
  that starts with a slash is taken from the root, any other
  from the directory of the document.
-/
def resolve
    (current target : Text) : Text :=
  match unify target with
  | '/' :: rooted => normalize rooted
  | relative =>
    let base := ofSegments (directory current)
    if base = [] then normalize relative
    else normalize (base ++ '/' :: relative)

------------------------------------------------------------
-- Links
------------------------------------------------------------

/- How many segments two lists have in common in front. -/
def commonLength : List Text → List Text → Nat
| a :: as, b :: bs =>
  if a = b then commonLength as bs + 1 else 0
| _, _ => 0

/- A path with its spaces as percent codes. -/
def encodeSpaces (path : Text) : Text :=
  path.flatMap fun c =>
    if c = ' ' then ['%', '2', '0'] else [c]

/- The fragment of a link, with the `#` before it. -/
def fragment : Option Text → Text
| none => []
| some [] => []
| some anchor => '#' :: anchor

/-
  The shortest link from one document to another, or to an
  anchor there.
-/
def relativeLink
    (start goal : Text)
    (anchor : Option Text) : Text :=
  let here := directory start
  let there := names goal
  let common := commonLength here there.dropLast
  let ups := List.replicate (here.length - common) ['.', '.', '/']
  encodeSpaces
      (ups.flatten ++ ofSegments (there.drop common)) ++
    fragment anchor

------------------------------------------------------------
-- Doubled Segments
------------------------------------------------------------

/- Directories without those that repeat the one before. -/
def dropRepeats : List Text → List Text
| [] => []
| [a] => [a]
| a :: b :: rest =>
  if a = b then dropRepeats (b :: rest)
  else a :: dropRepeats (b :: rest)

/-
  A path with each directory that repeats the one before it
  left out; nothing if there is none.
-/
def collapse? (path : Text) : Option Text :=
  let ss := segments path
  let directories := ss.dropLast
  let kept := dropRepeats directories
  if kept = directories then none
  else some (ofSegments (kept ++ ss.getLast?.toList))

end DocPath

end SourceDocs
