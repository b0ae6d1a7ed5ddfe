import SourceDocs.Text.Octets

/-
  Folders with files and folders in them.

  A folder lists its entries in order of their names. The
  names are compared character by character, which for
  UTF-8 is the order of their octets.

  Key definitions include:
    * `SourceDocs.Content`
    * `SourceDocs.Folder`
    * `SourceDocs.Folder.get?`
    * `SourceDocs.Folder.putAt`
    * `SourceDocs.Folder.walk`
    * `SourceDocs.Folder.Sorted`
-/

------------------------------------------------------------
-- Contents Of Files
------------------------------------------------------------

namespace SourceDocs

/- What a file holds: a text, or octets that are none. -/
inductive Content where
  | text (t : Text)
  | binary (octets : Octets)
  deriving DecidableEq, Repr

namespace Content

/- The content that octets make up. -/
def ofOctets (octets : Octets) : Content :=
  match Octets.decode? octets with
  | some t => .text t
  | none => .binary octets

/- The text of a file, if it is one. -/
def text? : Content → Option Text
| .text t => some t
| .binary _ => none

end Content

------------------------------------------------------------
-- Folders
------------------------------------------------------------

/- A folder, as the list of its entries. -/
inductive Folder where
  | empty
  | file (name : Text) (content : Content) (rest : Folder)
  | folder (name : Text) (inside : Folder) (rest : Folder)
  deriving DecidableEq, Repr

/- What a name in a folder stands for. -/
inductive Entry where
  | file (content : Content)
  | folder (inside : Folder)
  deriving DecidableEq, Repr

namespace Entry

/- Puts an entry in front of others. -/
def before
    (name : Text)
    (rest : Folder) : Entry → Folder
| .file content => .file name content rest
| .folder inside => .folder name inside rest

end Entry

namespace Folder

/- The entry of a name. -/
def find? (name : Text) : Folder → Option Entry
| .empty => none
| .file n content rest =>
  if name = n then some (.file content) else rest.find? name
| .folder n inside rest =>
  if name = n then some (.folder inside) else rest.find? name

/- Enters a name at its place, in place of an older entry. -/
def put
    (name : Text)
    (entry : Entry) : Folder → Folder
| .empty => entry.before name .empty
| .file n content rest =>
  if name = n then entry.before name rest
  else if name < n then
    entry.before name (.file n content rest)
  else .file n content (rest.put name entry)
| .folder n inside rest =>
  if name = n then entry.before name rest
  else if name < n then
    entry.before name (.folder n inside rest)
  else .folder n inside (rest.put name entry)

/- The names of a folder's entries, in order. -/
def names : Folder → List Text
| .empty => []
| .file n _ rest => n :: rest.names
| .folder n _ rest => n :: rest.names

/- All folders list their entries in increasing order. -/
def Sorted : Folder → Prop
| .empty => True
| .file n _ rest => (∀ m ∈ rest.names, n < m) ∧ rest.Sorted
| .folder n inside rest =>
  (∀ m ∈ rest.names, n < m) ∧ inside.Sorted ∧ rest.Sorted

------------------------------------------------------------
-- Entries Deep Inside
------------------------------------------------------------

/- The entry that names lead to, one folder after another. -/
def get? : List Text → Folder → Option Entry
| [], f => some (.folder f)
| n :: ns, f =>
  match f.find? n with
  | some (.folder inside) => get? ns inside
  | some (.file content) =>
    if ns = [] then some (.file content) else none
  | none => none

/-
  Enters something where names lead to, with the folders
  that are missing on the way.
-/
def putAt : List Text → Entry → Folder → Folder
| [], _, f => f
| [n], entry, f => f.put n entry
| n :: ns, entry, f =>
  match f.find? n with
  | some (.folder inside) =>
    f.put n (.folder (putAt ns entry inside))
  | _ => f.put n (.folder (putAt ns entry .empty))

------------------------------------------------------------
-- Walking
------------------------------------------------------------

/-
  The files of a folder and of the folders inside, each with
  the names that lead to it. Entries come in order, and a
  folder's files come where the folder stands; it is entered
  if `enters` says so of the names that lead to it.
-/
def walk (enters : List Text → Bool) :
    Folder → List (List Text × Content)
| .empty => []
| .file n content rest => ([n], content) :: rest.walk enters
| .folder n inside rest =>
  (if enters [n] then
    (inside.walk fun ns => enters (n :: ns)).map
      fun (ns, content) => (n :: ns, content)
   else []) ++
    rest.walk enters

/- All files, each with the names that lead to it. -/
def files (f : Folder) : List (List Text × Content) :=
  f.walk fun _ => true

end Folder

end SourceDocs
