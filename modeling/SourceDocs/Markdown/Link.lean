import SourceDocs.Text.Occurrence

/-
  Links and reference placeholders in documents.

  A link is written `[label](target)`. A placeholder is
  written with the word `ref`, a colon and a name between
  braces; the name may have two parts with a dot between.

  Key definitions include:
    * `SourceDocs.Link`
    * `SourceDocs.Link.render`
    * `SourceDocs.Link.reader`
    * `SourceDocs.Placeholder.reader`
    * `SourceDocs.Link.strip`
-/

------------------------------------------------------------
-- Links
------------------------------------------------------------

namespace SourceDocs

/- A link: the text it shows and where it leads. -/
structure Link where
  label : Text
  target : Text
  deriving DecidableEq, Repr

namespace Link

/- A link as it is written. -/
def render (link : Link) : Text :=
  '[' :: link.label ++
    (']' :: '(' :: link.target ++ [')'])

/-
  The link at the front of a text. The label ends at the
  first closing bracket and may be empty; the target ends at
  the first closing parenthesis and may not.
-/
def read? : Text → Option Link
| '[' :: t =>
  match t.dropWhile (· ≠ ']') with
  | ']' :: '(' :: u =>
    match u.takeWhile (· ≠ ')'), u.dropWhile (· ≠ ')') with
    | c :: cs, ')' :: _ =>
      some ⟨t.takeWhile (· ≠ ']'), c :: cs⟩
    | _, _ => none
  | _ => none
| _ => none

/- Reads links. -/
def reader : Reader Link :=
  fun _ t => (read? t).map fun link => (link, link.render)

/- Reads links that show something. -/
def labelledReader : Reader Link :=
  fun before t =>
    (reader before t).filter fun (link, _) => link.label ≠ []

/- A text with the labels of its links in place of them. -/
def strip (t : Text) : Text :=
  (t.cut labelledReader).replace fun o => o.value.label

end Link

------------------------------------------------------------
-- Placeholders
------------------------------------------------------------

/- A reference to an entity by its name. -/
structure Placeholder where
  name : Text
  deriving DecidableEq, Repr

namespace Placeholder

/- What a placeholder starts with. -/
def opening : Text :=
  "\x7bref:".toList

/- A placeholder as it is written. -/
def render (p : Placeholder) : Text :=
  opening ++ p.name ++ ['\x7d']

/- The name at the front of a text: a word, or two. -/
def readName (t : Text) : Text × Text :=
  let first := t.takeWhile isWord
  match t.dropWhile isWord with
  | '.' :: u =>
    match u.takeWhile isWord with
    | [] => (first, '.' :: u)
    | c :: cs =>
      (first ++ '.' :: c :: cs, u.dropWhile isWord)
  | u => (first, u)

/- The placeholder at the front of a text. -/
def read? (t : Text) : Option Placeholder :=
  match Text.after? opening t with
  | none => none
  | some u =>
    if (u.takeWhile isWord).isEmpty then none
    else
      match readName u with
      | (name, '\x7d' :: _) => some ⟨name⟩
      | _ => none

/- Reads placeholders. -/
def reader : Reader Placeholder :=
  fun _ t => (read? t).map fun p => (p, p.render)

/- The last part of the name. -/
def lastPart (p : Placeholder) : Text :=
  Text.afterLast '.' p.name

end Placeholder

end SourceDocs
