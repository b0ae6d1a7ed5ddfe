import SourceDocs.Text.Basic

/-
  Blocks between braces and lists between brackets.

  Key definitions include:
    * `SourceDocs.Block`
    * `SourceDocs.Text.block?`
    * `SourceDocs.Text.blockAt?`
    * `SourceDocs.Text.splitTopLevel`
-/

------------------------------------------------------------
-- Blocks
------------------------------------------------------------

namespace SourceDocs

namespace Text

/-
  Where the brace stands that closes a block whose opening
  brace stands before the text: behind so many characters,
  where `seen` are counted already and `depth` blocks are
  open inside of it.
-/
def closeAt? (depth seen : Nat) : Text → Option Nat
| [] => none
| c :: cs =>
  if c = '\x7b' then
    closeAt? (depth + 1) (seen + 1) cs
  else if c = '\x7d' then
    match depth with
    | 0 => some seen
    | depth + 1 => closeAt? depth (seen + 1) cs
  else
    closeAt? depth (seen + 1) cs

/- The inside of the block whose opening brace came before. -/
def block? (t : Text) : Option Text :=
  (closeAt? 0 0 t).map t.take

/- What follows `n` octets, if a character ends there. -/
def dropOctets? : Nat → Text → Option Text
| 0, t => some t
| _ + 1, [] => none
| n + 1, c :: cs =>
  if c.utf8Size ≤ n + 1 then
    dropOctets? (n + 1 - c.utf8Size) cs
  else none

end Text

/- The inside of a block, and where it starts and stops. -/
structure Block where
  start : Nat
  stop : Nat
  text : Text
  deriving DecidableEq, Repr

namespace Text

/-
  The block that the brace behind `n` octets opens, if a
  brace stands there and is closed.
-/
def blockAt?
    (t : Text)
    (n : Nat) : Option Block :=
  match dropOctets? n t with
  | some ('\x7b' :: rest) =>
    (block? rest).map fun inside =>
      ⟨n + 1, n + 1 + byteLength inside, inside⟩
  | _ => none

------------------------------------------------------------
-- Lists
------------------------------------------------------------

/- Brackets that open a list inside of a list. -/
def isOpening (c : Char) : Bool :=
  c == '<' || c == '(' || c == '['

/- Brackets that close one. -/
def isClosing (c : Char) : Bool :=
  c == '>' || c == ')' || c == ']'

/-
  The parts of a list of which `part` is read already, last
  character first, with `depth` brackets open.
-/
def splitFrom
    (depth : Nat)
    (part : Text) : Text → List Text
| [] => [part.reverse]
| c :: cs =>
  if isOpening c then splitFrom (depth + 1) (c :: part) cs
  else if isClosing c then splitFrom (depth - 1) (c :: part) cs
  else if c = ',' ∧ depth = 0 then
    part.reverse :: splitFrom depth [] cs
  else splitFrom depth (c :: part) cs

/- The parts between the commas that no bracket encloses. -/
def splitTopLevel (t : Text) : List Text :=
  splitFrom 0 [] t

end Text

end SourceDocs
