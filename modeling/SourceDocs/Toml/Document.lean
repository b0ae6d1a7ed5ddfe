import SourceDocs.Toml.Quoted
import SourceDocs.Toml.Scalar
import SourceDocs.Toml.Value

/-
  TOML documents.

  Key definitions include:
    * `SourceDocs.Toml.readValue?`
    * `SourceDocs.TomlTable.ofText?`
-/

------------------------------------------------------------
-- Values
------------------------------------------------------------

namespace SourceDocs

namespace Toml

/-
  A text without blanks, line ends and comments at its
  front. What no comment may hold is left standing.
-/
def skipCommentsFrom (inComment : Bool) : Text → Text
| [] => []
| '\r' :: '\n' :: t => skipCommentsFrom false t
| c :: t =>
  if c = '\n' then skipCommentsFrom false t
  else if inComment then
    if isPlain c then skipCommentsFrom true t else c :: t
  else if isSpaceOrTab c then skipCommentsFrom false t
  else if c = '#' then skipCommentsFrom true t
  else c :: t

/- A text without what may stand between list items. -/
def skipComments (t : Text) : Text :=
  skipCommentsFrom false t

mutual

/-
  Reads a value in which brackets and braces may open `depth`
  times inside one another. Each step but every other takes
  a character, so `fuel` is twice the length at most.
-/
def valueFrom :
    Nat → Nat → Text → Option (TomlValue × Text)
| 0, _, _ => none
| fuel + 1, depth, t =>
  match t with
  | '"' :: _ => (readString? t).map fun (s, r) => (.text s, r)
  | '\'' :: _ => (readString? t).map fun (s, r) => (.text s, r)
  | '[' :: rest =>
    if depth = 0 then none
    else itemsFrom fuel (depth - 1) [] rest
  | '\x7b' :: rest =>
    if depth = 0 then none
    else
      match skipBlanks rest with
      | '\x7d' :: rest => some (.table .inline [], rest)
      | rest => pairsFrom fuel (depth - 1) [] rest
  | _ => (readScalar? t).map (TomlValue.scalar, ·)

/- Reads on in a list of which items are read. -/
def itemsFrom :
    Nat → Nat → List TomlValue → Text →
      Option (TomlValue × Text)
| 0, _, _, _ => none
| fuel + 1, depth, items, t =>
  match skipComments t with
  | ']' :: rest => some (.list items, rest)
  | t => do
    let (item, rest) ← valueFrom fuel depth t
    match skipComments rest with
    | ',' :: rest => itemsFrom fuel depth (items ++ [item]) rest
    | ']' :: rest => return (.list (items ++ [item]), rest)
    | _ => none

/- Reads on in braces of which entries are read. -/
def pairsFrom :
    Nat → Nat → TomlTable → Text → Option (TomlValue × Text)
| 0, _, _, _ => none
| fuel + 1, depth, entries, t => do
  let ((keys, key), rest) ← readKey? t
  match rest with
  | '=' :: rest => do
    let (value, rest) ← valueFrom fuel depth (skipBlanks rest)
    let entries ←
      TomlTable.enter keys key value .stated entries
    match skipBlanks rest with
    | ',' :: rest => pairsFrom fuel depth entries rest
    | '\x7d' :: rest => return (.table .inline entries, rest)
    | _ => none
  | _ => none

end

/- Reads a value. -/
def readValue? (t : Text) : Option (TomlValue × Text) :=
  valueFrom (2 * t.length + 2) (depthLimit - 1) t

------------------------------------------------------------
-- Lines
------------------------------------------------------------

/- What follows a line of which only a comment may be left. -/
def lineRest? (t : Text) : Option Text :=
  match skipBlanks t with
  | [] => some []
  | '#' :: comment =>
    match comment.dropWhile isPlain with
    | [] => some []
    | rest => lineEnd? rest
  | rest => lineEnd? rest

/- A document so far, and the keys of the open table. -/
structure Draft where
  root : TomlTable
  current : List Text

/- Reads the rest of a header with one bracket. -/
def tableHeader?
    (draft : Draft)
    (t : Text) : Option (Draft × Text) := do
  let ((keys, key), rest) ← readKey? t
  let rest ← Text.after? "]".toList rest
  let root ← TomlTable.openTable keys key draft.root
  return (⟨root, keys ++ [key]⟩, ← lineRest? rest)

/- Reads the rest of a header with two brackets. -/
def elementHeader?
    (draft : Draft)
    (t : Text) : Option (Draft × Text) := do
  let ((keys, key), rest) ← readKey? t
  let rest ← Text.after? "]]".toList rest
  let root ← TomlTable.openElement keys key draft.root
  return (⟨root, keys ++ [key]⟩, ← lineRest? rest)

/- Reads a line with a key and its value. -/
def entryLine?
    (draft : Draft)
    (t : Text) : Option (Draft × Text) := do
  let ((keys, key), rest) ← readKey? t
  let rest ← Text.after? "=".toList rest
  let (value, rest) ← readValue? (skipBlanks rest)
  let root ←
    TomlTable.within false
      (TomlTable.enter keys key value) draft.current .stated
      draft.root
  return (⟨root, draft.current⟩, ← lineRest? rest)

/- Reads a line. -/
def readLine?
    (draft : Draft)
    (t : Text) : Option (Draft × Text) :=
  match t with
  | '[' :: '[' :: rest => elementHeader? draft rest
  | '[' :: rest => tableHeader? draft rest
  | '#' :: _ => (lineRest? t).map (draft, ·)
  | '\n' :: _ => (lineRest? t).map (draft, ·)
  | '\r' :: _ => (lineRest? t).map (draft, ·)
  | _ => entryLine? draft t

/- Reads lines to the end, at most so many. -/
def linesFrom (draft : Draft) : Nat → Text → Option TomlTable
| 0, _ => none
| fuel + 1, t =>
  match skipBlanks t with
  | [] => some draft.root
  | t => do
    let (draft, rest) ← readLine? draft t
    linesFrom draft fuel rest

end Toml

/- The table of a document; a mark in front means nothing. -/
def TomlTable.ofText? (t : Text) : Option TomlTable :=
  let t := (Text.after? [Char.ofNat 0xFEFF] t).getD t
  Toml.linesFrom ⟨[], []⟩ (t.length + 1) t

end SourceDocs
