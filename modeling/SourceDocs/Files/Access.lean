import SourceDocs.Files.FilePath
import SourceDocs.Files.Folder

/-
  Reading and writing files below a working folder.

  A path is followed segment by segment, as a file system
  does: each segment before the last has to lead to a
  folder, and `..` leads back to the folder above. Nothing
  is known of the disk outside the working folder, so a path
  that leaves it leads nowhere.

  Key definitions include:
    * `SourceDocs.FileFault`
    * `SourceDocs.Folder.locate`
    * `SourceDocs.Folder.isFile`
    * `SourceDocs.Folder.folderAt?`
    * `SourceDocs.Folder.readText`
    * `SourceDocs.Folder.walkFrom`
    * `SourceDocs.Content.readAt`
    * `SourceDocs.Written`
    * `SourceDocs.Folder.makeFolders`
    * `SourceDocs.Folder.writeText`
    * `SourceDocs.Folder.writeFile`
-/

------------------------------------------------------------
-- Faults
------------------------------------------------------------

namespace SourceDocs

/- Why a file or a folder cannot be used. -/
inductive FileFault where
  | notFound
  | exists
  | notFolder
  | isFolder
  | nameTooLong
  | zeroCharacter
  | notText
  deriving DecidableEq, Repr

namespace FileFault

/- The system's wording of a fault. -/
def message : FileFault → Text
| .notFound => "No such file or directory (os error 2)".toList
| .exists => "File exists (os error 17)".toList
| .notFolder => "Not a directory (os error 20)".toList
| .isFolder => "Is a directory (os error 21)".toList
| .nameTooLong => "File name too long (os error 36)".toList
| .zeroCharacter =>
  "file name contained an unexpected NUL byte".toList
| .notText => "stream did not contain valid UTF-8".toList

end FileFault

------------------------------------------------------------
-- Following Paths
------------------------------------------------------------

namespace Folder

/- The longest name and the longest path, in octets. -/
def nameLimit : Nat := 255

def pathLimit : Nat := 4095

/-
  The names that lead from the root to where segments lead,
  starting below the names of `trail`, nearest first.
-/
def follow
    (root : Folder)
    (trail : List Text) :
    List Text → Except FileFault (List Text)
| [] => .ok trail.reverse
| s :: ss =>
  if s = [] ∨ s = ['.'] then
    follow root trail ss
  else if s = ['.', '.'] then
    match trail with
    | [] => .error .notFound
    | _ :: up => follow root up ss
  else if Text.byteLength s > nameLimit then
    .error .nameTooLong
  else
    match root.get? (s :: trail).reverse with
    | none => .error .notFound
    | some (.folder _) => follow root (s :: trail) ss
    | some (.file _) =>
      if ss = [] then .ok (s :: trail).reverse
      else .error .notFolder

/- The segments of a path that a file system accepts. -/
def pathSegments
    (path : Text) : Except FileFault (List Text) :=
  if path.contains (Char.ofNat 0) then .error .zeroCharacter
  else if path = [] then .error .notFound
  else if Text.byteLength path > pathLimit then
    .error .nameTooLong
  else if FilePath.isAbsolute path then .error .notFound
  else .ok (path.splitOn '/')

/- The entry that a path leads to. -/
def locate
    (root : Folder)
    (path : Text) : Except FileFault Entry := do
  let names ← follow root [] (← pathSegments path)
  match root.get? names with
  | some entry => .ok entry
  | none => .error .notFound

/- Whether a path leads to something. -/
def holds
    (root : Folder)
    (path : Text) : Bool :=
  (root.locate path).toOption.isSome

/- Whether a path leads to a file. -/
def isFile
    (root : Folder)
    (path : Text) : Bool :=
  match root.locate path with
  | .ok (.file _) => true
  | _ => false

/- The folder that a path leads to. -/
def folderAt?
    (root : Folder)
    (path : Text) : Option Folder :=
  match root.locate path with
  | .ok (.folder f) => some f
  | _ => none

------------------------------------------------------------
-- Reading
------------------------------------------------------------

/- The text of the file that a path leads to. -/
def readText
    (root : Folder)
    (path : Text) : Except FileFault Text := do
  match ← root.locate path with
  | .folder _ => .error .isFolder
  | .file content =>
    match content.text? with
    | some t => .ok t
    | none => .error .notText

------------------------------------------------------------
-- Walking
------------------------------------------------------------

/-
  Whether a walk from a path opens the folder that names
  lead to: it is left out if its name is in `skip`, and if
  its path is too long.
-/
def opens
    (path : Text)
    (skip : Text → Bool)
    (names : List Text) : Bool :=
  !names.getLast?.any skip &&
    decide
      (Text.byteLength (FilePath.below path names) ≤ pathLimit)

/- The files that a walk from a path meets. -/
def walkFrom
    (path : Text)
    (skip : Text → Bool)
    (tree : Folder) : List (List Text × Content) :=
  tree.walk (opens path skip)

end Folder

/- The text of a file that a walk has met at a path. -/
def Content.readAt
    (path : Text)
    (content : Content) : Except FileFault Text :=
  if Text.byteLength path > Folder.pathLimit then
    .error .nameTooLong
  else
    match content.text? with
    | some t => .ok t
    | none => .error .notText

------------------------------------------------------------
-- Writing
------------------------------------------------------------

/-
  What writing leaves behind, and the fault that stopped it.
  What was written before a fault stays.
-/
structure Written where
  folder : Folder
  fault : Option FileFault
  deriving DecidableEq, Repr

namespace Written

/- Everything is written. -/
def done (folder : Folder) : Written :=
  ⟨folder, none⟩

/- A fault has stopped the writing. -/
def stopped
    (folder : Folder)
    (fault : FileFault) : Written :=
  ⟨folder, some fault⟩

/- Writes on, unless a fault has stopped the writing. -/
def andThen
    (written : Written)
    (next : Folder → Written) : Written :=
  match written.fault with
  | some _ => written
  | none => next written.folder

end Written

namespace Folder

/-
  Makes the folders that components lead to, below the names
  of `trail`, nearest first; `fresh` tells that some were
  made already. A file on the way is no folder to go through
  at first, but one that exists once folders are being made.
-/
def makeBelow
    (root : Folder)
    (fresh : Bool)
    (trail : List Text) :
    List Text → Written
| [] => .done root
| s :: ss =>
  if s = ['.', '.'] then
    match trail with
    | [] => .stopped root .notFound
    | _ :: up => makeBelow root fresh up ss
  else if Text.byteLength s > nameLimit then
    .stopped root .nameTooLong
  else
    match root.get? (s :: trail).reverse with
    | some (.folder _) => makeBelow root fresh (s :: trail) ss
    | some (.file _) =>
      .stopped root
        (if fresh ∨ ss = [] then .exists else .notFolder)
    | none =>
      makeBelow
        (root.putAt (s :: trail).reverse (.folder .empty))
        true (s :: trail) ss

/- Makes a folder and those above it that are missing. -/
def makeFolders
    (root : Folder)
    (path : Text) : Written :=
  if path = [] then .done root
  else
    match pathSegments path with
    | .error fault => .stopped root fault
    | .ok _ =>
      makeBelow root false [] (FilePath.components path)

/-
  Writes a file, in place of an older one. Its folder has to
  be there, and a path that ends in a slash, in `.` or in
  `..` can only mean a folder.
-/
def writeText
    (root : Folder)
    (path : Text)
    (t : Text) : Except FileFault Folder := do
  let segments ← pathSegments path
  let named := (segments.reverse.dropWhile (· = [])).reverse
  let name := named.getLast?.getD []
  let names ← follow root [] (named.dropLast ++ [[]])
  if named.length < segments.length ∨ name = ['.'] ∨
      name = ['.', '.'] then
    .error .isFolder
  else if Text.byteLength name > nameLimit then
    .error .nameTooLong
  else
    match root.get? (names ++ [name]) with
    | some (.folder _) => .error .isFolder
    | _ =>
      .ok (root.putAt (names ++ [name]) (.file (.text t)))

/- Writes a file and the folders it is in. -/
def writeFile
    (root : Folder)
    (path : Text)
    (t : Text) : Written :=
  let made :=
    match FilePath.parent? path with
    | some parent => root.makeFolders parent
    | none => .done root
  made.andThen fun folder =>
    match folder.writeText path t with
    | .ok written => .done written
    | .error fault => .stopped folder fault

end Folder

end SourceDocs
