import SourceDocs.Pattern.Basic
import SourceDocs.Pattern.Flags
import SourceDocs.Pattern.PropertyName
import SourceDocs.Text.HexDigits

/-
  The meaning of characters behind a backslash in a pattern.

  Key definitions include:
    * `SourceDocs.Piece`
    * `SourceDocs.Piece.ofEscape?`
    * `SourceDocs.Piece.pattern?`
    * `SourceDocs.Piece.set?`
-/

------------------------------------------------------------
-- Pieces
------------------------------------------------------------

namespace SourceDocs

/-
  The smallest parts of a pattern. A character is an octet
  if it was written as one, by two hexadecimal digits.
-/
inductive Piece where
  | char (c : Char) (isOctet : Bool)
  | set (s : CharSet)
  | check (a : Assertion)
  deriving DecidableEq, Repr

namespace Piece

/- The pattern of a piece that stands outside of classes. -/
def pattern?
    (flags : Flags) : Piece → Option Pattern
| .char c isOctet =>
  let refused :=
    flags.known = .ascii ∧ !isAscii c ∧
      (isOctet ∨ flags.anyCase)
  if refused then none
  else some (.one (flags.fold (.single c)))
| .set s => some (.one s)
| .check a => some (.check a)

/- The characters that a piece adds to a class. -/
def set?
    (flags : Flags) : Piece → Option CharSet
| .char c isOctet =>
  if flags.known = .unicode ∨ isOctet ∨ isAscii c then
    some (.single c)
  else none
| .set s => some s
| .check _ => none

------------------------------------------------------------
-- Characters By Number
------------------------------------------------------------

/- The next so many characters that mean something. -/
def nextChars
    (flags : Flags) : Nat → Text → Option (Text × Text)
| 0, t => some ([], t)
| _ + 1, [] => none
| n + 1, c :: cs =>
  (nextChars flags n (flags.skip cs)).map fun (more, rest) =>
    (c :: more, rest)

/- A character by its number, in braces or of fixed length. -/
def ofHex?
    (flags : Flags)
    (digits : Nat)
    (t : Text) : Option (Piece × Text) :=
  match flags.skip t with
  | '\x7b' :: rest =>
    (flags.braced rest).bind fun (inside, rest) =>
      (charOfHex? inside).map fun c => (.char c false, rest)
  | rest =>
    (nextChars flags digits rest).bind fun (code, rest) =>
      (charOfHex? code).map fun c =>
        (.char c (digits = 2), rest)

------------------------------------------------------------
-- Named Classes
------------------------------------------------------------

/- The class of a name in braces, and whether it is negated. -/
def namedSet? (inside : Text) : Option (CharSet × Bool) :=
  match Text.cutAt? "!=".toList inside with
  | some (name, value) =>
    (CharSet.ofPropertyValue? name value).map (·, true)
  | none =>
    let parts :=
      (Text.cutAtChar? ':' inside).or
        (Text.cutAtChar? '=' inside)
    match parts with
    | some (name, value) =>
      (CharSet.ofPropertyValue? name value).map (·, false)
    | none => (CharSet.ofPropertyName? inside).map (·, false)

/- The class of a property, which only Unicode knows. -/
def ofProperty?
    (flags : Flags)
    (negated : Bool)
    (t : Text) : Option (Piece × Text) :=
  let named :=
    match flags.skip t with
    | [] => none
    | '\x7b' :: rest =>
      (flags.braced rest).bind fun (inside, rest) =>
        (namedSet? inside).map (·, rest)
    | c :: rest =>
      (CharSet.ofPropertyName? [c]).map fun s =>
        ((s, false), rest)
  if flags.known = .ascii then none
  else
    named.bind fun ((s, inverse), rest) =>
      (flags.finish (negated != inverse) (flags.fold s)).map
        fun whole => (.set whole, rest)

/- The class of a letter. -/
def ofClass?
    (flags : Flags)
    (negated : Bool)
    (s : Repertoire → CharSet)
    (t : Text) : Option (Piece × Text) :=
  (flags.finish negated (s flags.known)).map (.set ·, t)

------------------------------------------------------------
-- Word Edges
------------------------------------------------------------

/- The assertions with a name in braces. -/
def edgeNames : List (String × (Repertoire → Assertion)) :=
  [("start", .wordStart), ("end", .wordEnd),
   ("start-half", .noWordBefore), ("end-half", .noWordAfter)]

/- The characters that such names are made of. -/
def isEdgeNameChar (c : Char) : Bool :=
  isAsciiLetter c || c == '-'

/-
  The edge of a word. Braces that follow belong to it if
  they start with a letter or a hyphen; all others count
  rounds.
-/
def ofEdge?
    (flags : Flags)
    (t : Text) : Option (Piece × Text) :=
  let plain := some (.check (.wordEdge flags.known), t)
  match t with
  | '\x7b' :: rest =>
    match flags.skip rest with
    | [] => none
    | c :: _ =>
      if isEdgeNameChar c then
        (flags.braced rest).bind fun (inside, rest) =>
          (edgeNames.find? (·.1.toList == inside)).map
            fun (_, a) => (.check (a flags.known), rest)
      else plain
  | _ => plain

------------------------------------------------------------
-- Escapes
------------------------------------------------------------

/- Control characters with a letter. -/
def controlLetters : List (Char × Char) :=
  [('a', Char.ofNat 7), ('f', Char.ofNat 12), ('t', '\t'),
   ('n', '\n'), ('r', '\r'), ('v', Char.ofNat 11)]

/- The assertions with a single character. -/
def assertionLetters :
    List (Char × (Repertoire → Assertion)) :=
  [('A', fun _ => .textStart), ('z', fun _ => .textEnd),
   ('B', .noWordEdge), ('<', .wordStart), ('>', .wordEnd)]

/- Whether a character behind a backslash is just itself. -/
def standsForItself (c : Char) : Bool :=
  isAscii c &&
    !(isAsciiLetter c || isAsciiDigit c || c == '<' || c == '>')

/- The piece that a backslash in front of a text makes. -/
def ofEscape?
    (flags : Flags) : Text → Option (Piece × Text)
| [] => none
| c :: t =>
  match c with
  | 'x' => ofHex? flags 2 t
  | 'u' => ofHex? flags 4 t
  | 'U' => ofHex? flags 8 t
  | 'p' => ofProperty? flags false t
  | 'P' => ofProperty? flags true t
  | 'd' => ofClass? flags false CharSet.digits t
  | 'D' => ofClass? flags true CharSet.digits t
  | 's' => ofClass? flags false CharSet.blanks t
  | 'S' => ofClass? flags true CharSet.blanks t
  | 'w' => ofClass? flags false CharSet.wordCharacters t
  | 'W' => ofClass? flags true CharSet.wordCharacters t
  | 'b' => ofEdge? flags t
  | _ =>
    if standsForItself c then some (.char c false, t)
    else
      ((controlLetters.lookup c).map fun d =>
          (.char d false, t)).or
        ((assertionLetters.lookup c).map fun a =>
          (.check (a flags.known), t))

end Piece

end SourceDocs
