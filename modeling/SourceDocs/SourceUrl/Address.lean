import SourceDocs.Markdown.Link

/-
  The shapes in which addresses of source files occur.

  Key definitions include:
    * `SourceDocs.BlobUrl`
    * `SourceDocs.StandInUrl`
    * `SourceDocs.ClickLine`
    * `SourceDocs.Link.webReader`

  A blob URL leads to a file on a branch. A stand-in URL
  names a repository that a generator made up. A click line
  gives a node of a diagram an address.
-/

------------------------------------------------------------
-- Schemes
------------------------------------------------------------

namespace SourceDocs

/- The scheme at the front of an address, and the rest. -/
def webScheme? (t : Text) : Option (Text × Text) :=
  let secure := "https://".toList
  let plain := "http://".toList
  match Text.after? secure t with
  | some rest => some (secure, rest)
  | none =>
    match Text.after? plain t with
    | some rest => some (plain, rest)
    | none => none

/- The host of repositories, with the slash behind it. -/
def repositoryHost : Text :=
  "github.com/".toList

/- The scheme and the host in front, and the rest. -/
def hosted? (t : Text) : Option (Text × Text) := do
  let (scheme, rest) ← webScheme? t
  let rest ← Text.after? repositoryHost rest
  some (scheme ++ repositoryHost, rest)

------------------------------------------------------------
-- Blob URLs
------------------------------------------------------------

/- A file on a branch of some repository. -/
structure BlobUrl where
  branch : Text
  path : Text
  fragment : Option Text
  deriving DecidableEq, Repr

namespace BlobUrl

/- Characters that part nothing and end no address. -/
def isPlain (c : Char) : Bool :=
  !isBlank c && c != '"'

/- Characters of an owner, a repository or a branch. -/
def isNameChar (c : Char) : Bool :=
  isPlain c && c != '/'

/- Characters of a fragment. -/
def isFragmentChar (c : Char) : Bool :=
  isPlain c && c != ')'

/- Characters of a query. -/
def isQueryChar (c : Char) : Bool :=
  isFragmentChar c && c != '#'

/- Characters of a path. -/
def isPathChar (c : Char) : Bool :=
  isQueryChar c && c != '?'

/- What is left behind a query, if there is one. -/
def skipQuery : Text → Text
| '?' :: t => t.dropWhile isQueryChar
| t => t

/- The fragment that a text is, if it is one or nothing. -/
def fragment? : Text → Option (Option Text)
| [] => some none
| '#' :: t => if t.all isFragmentChar then some (some t) else none
| _ => none

/- A blob URL, if the whole text is one. -/
def ofText? (t : Text) : Option BlobUrl := do
  let (_, t) ← hosted? t
  let (_, t) ← Text.run? isNameChar t
  let t ← Text.after? ['/'] t
  let (_, t) ← Text.run? isNameChar t
  let t ← Text.after? "/blob/".toList t
  let (branch, t) ← Text.run? isNameChar t
  let t ← Text.after? ['/'] t
  let (path, t) ← Text.run? isPathChar t
  let fragment ← fragment? (skipQuery t)
  some ⟨branch, path, fragment⟩

end BlobUrl

------------------------------------------------------------
-- Stand-In URLs
------------------------------------------------------------

/- What follows the made-up repository in an address. -/
structure StandInUrl where
  rest : Text
  deriving DecidableEq, Repr

namespace StandInUrl

/- The name of a made-up repository in front. -/
def repository? (t : Text) : Option (Text × Text) :=
  let short := "your-repo".toList
  let long := "your-repo-link".toList
  let owned := "OWNER/REPO".toList
  match Text.after? long t with
  | some rest => some (long, rest)
  | none =>
    match Text.after? short t with
    | some rest => some (short, rest)
    | none =>
      match Text.after? owned t with
      | some rest => some (owned, rest)
      | none => none

/- Characters of the rest of an address. -/
def isRestChar (c : Char) : Bool :=
  BlobUrl.isPlain c && c != ')' && c != ']'

/- The rest of an address: a slash and what follows. -/
def restOf : Text → Text
| '/' :: t => '/' :: t.takeWhile isRestChar
| _ => []

/- Reads stand-in URLs. -/
def reader : Reader StandInUrl :=
  fun _ t => do
    let (host, t) ← hosted? t
    let (repository, t) ← repository? t
    some (⟨restOf t⟩, host ++ repository ++ restOf t)

end StandInUrl

------------------------------------------------------------
-- Click Lines
------------------------------------------------------------

/-
  A click line: its indent, what stands before the address,
  the address, and what stands behind.
-/
structure ClickLine where
  indent : Text
  front : Text
  url : Text
  back : Text
  deriving DecidableEq, Repr

namespace ClickLine

/- The line as it is written. -/
def render (line : ClickLine) : Text :=
  line.indent ++ line.front ++ line.url ++ line.back

/- A word that may announce the address. -/
def announcement (t : Text) : Text × Text :=
  let word := "href".toList
  match (Text.after? word t).bind (Text.run? isSpaceOrTab) with
  | some (blanks, rest) => (word ++ blanks, rest)
  | none => ([], t)

/- The click line at the front of a text. -/
def read? (t : Text) : Option ClickLine := do
  let word := "click".toList
  let (indent, t) := Text.run isSpaceOrTab t
  let t ← Text.after? word t
  let (blanks, t) ← Text.run? isSpaceOrTab t
  let (node, t) ← Text.run? isWord t
  let (gap, t) ← Text.run? isSpaceOrTab t
  let (announced, t) := announcement t
  let t ← Text.after? ['"'] t
  let (scheme, t) ← webScheme? t
  let (address, t) ← Text.run? (· != '"') t
  let t ← Text.after? ['"'] t
  some
    { indent
      front := word ++ blanks ++ node ++ gap ++ announced ++ ['"']
      url := scheme ++ address
      back := '"' :: t.takeWhile (· != '\n') }

/- Reads click lines, at the starts of lines only. -/
def reader : Reader ClickLine :=
  fun before t =>
    if atLineStart before then
      (read? t).map fun line => (line, line.render)
    else none

end ClickLine

------------------------------------------------------------
-- Links Into The Web
------------------------------------------------------------

namespace Link

/- Whether a target is a web address without blanks. -/
def isWebTarget (target : Text) : Bool :=
  match webScheme? target with
  | none => false
  | some (_, address) =>
    !address.isEmpty && address.all (!isBlank ·)

/- Reads links to web addresses. -/
def webReader : Reader Link :=
  fun before t =>
    (reader before t).filter fun (link, _) =>
      isWebTarget link.target

end Link

end SourceDocs
