import SourceDocs.Text.CharClass
import SourceDocs.Text.HexDigits

/-
  Strings and keys of TOML.

  Key definitions include:
    * `SourceDocs.Toml.readString?`
    * `SourceDocs.Toml.readKey?`

  Each reader gives what it reads with what is left, and
  nothing if the text is malformed.
-/

------------------------------------------------------------
-- Blanks
------------------------------------------------------------

namespace SourceDocs

namespace Toml

/- A text without the spaces and tabs at its front. -/
def skipBlanks (t : Text) : Text :=
  t.dropWhile isSpaceOrTab

/- Whether a character may stand for itself in a comment. -/
def isPlain (c : Char) : Bool :=
  c == '\t' || (decide (' ' ≤ c) && c.toNat != 0x7F)

/- What follows the end of a line. -/
def lineEnd? : Text → Option Text
| '\n' :: t => some t
| '\r' :: '\n' :: t => some t
| _ => none

/- A text without blanks and line ends at its front. -/
def skipLines : Text → Text
| [] => []
| '\r' :: '\n' :: t => skipLines t
| c :: t =>
  if isSpaceOrTab c || c == '\n' then skipLines t else c :: t

/- A text without the line end at its front. -/
def skipLineEnd (t : Text) : Text :=
  (lineEnd? t).getD t

------------------------------------------------------------
-- Escapes
------------------------------------------------------------

/- The character of so many hexadecimal digits. -/
def numbered?
    (count : Nat)
    (t : Text) : Option (Char × Text) :=
  if t.length < count then none
  else (charOfHex? (t.take count)).map (·, t.drop count)

/- The character behind a backslash. -/
def escape? : Text → Option (Char × Text)
| 'b' :: t => some (Char.ofNat 8, t)
| 't' :: t => some ('\t', t)
| 'n' :: t => some ('\n', t)
| 'f' :: t => some (Char.ofNat 12, t)
| 'r' :: t => some ('\r', t)
| '"' :: t => some ('"', t)
| '\\' :: t => some ('\\', t)
| 'u' :: t => numbered? 4 t
| 'U' :: t => numbered? 8 t
| _ => none

------------------------------------------------------------
-- Strings In One Line
------------------------------------------------------------

/- Puts a character in front of what is read. -/
def push
    (c : Char)
    (read : Text × Text) : Text × Text :=
  (c :: read.1, read.2)

/- Reads on in a string with escapes, at most so far. -/
def basicFrom : Nat → Text → Option (Text × Text)
| 0, _ => none
| _ + 1, [] => none
| fuel + 1, c :: t =>
  if c = '"' then some ([], t)
  else if c = '\\' then
    (escape? t).bind fun (d, rest) =>
      (basicFrom fuel rest).map (push d)
  else if isPlain c then (basicFrom fuel t).map (push c)
  else none

/- Reads on in a string without escapes. -/
def literalFrom : Text → Option (Text × Text)
| [] => none
| c :: t =>
  if c = '\'' then some ([], t)
  else if isPlain c then (literalFrom t).map (push c)
  else none

------------------------------------------------------------
-- Strings In Several Lines
------------------------------------------------------------

/-
  The end of a string in several lines: three quotes, before
  which two more belong to the string.
-/
def closing?
    (quote : Char)
    (t : Text) : Option (Text × Text) :=
  let count := (t.takeWhile (· == quote)).length
  if count < 3 then none
  else
    let inside := min (count - 3) 2
    some (List.replicate inside quote, t.drop (inside + 3))

/- What follows a backslash that hides the end of its line. -/
def hiddenLineEnd? (t : Text) : Option Text :=
  (lineEnd? (skipBlanks t)).map skipLines

/- Reads on in several lines, at most so far. -/
def longFrom
    (quote : Char)
    (escapes : Bool) :
    Nat → Text → Option (Text × Text)
| 0, _ => none
| _ + 1, [] => none
| fuel + 1, c :: t =>
  match closing? quote (c :: t) with
  | some read => some read
  | none =>
    match lineEnd? (c :: t) with
    | some rest =>
      (longFrom quote escapes fuel rest).map (push '\n')
    | none =>
      if escapes ∧ c = '\\' then
        match hiddenLineEnd? t with
        | some rest => longFrom quote escapes fuel rest
        | none =>
          (escape? t).bind fun (d, rest) =>
            (longFrom quote escapes fuel rest).map (push d)
      else if isPlain c then
        (longFrom quote escapes fuel t).map (push c)
      else none

/- Reads a string that fills one line at most. -/
def readShort? : Text → Option (Text × Text)
| '"' :: t => basicFrom t.length t
| '\'' :: t => literalFrom t
| _ => none

/- Reads a string. -/
def readString? : Text → Option (Text × Text)
| '"' :: '"' :: '"' :: t =>
  let t := skipLineEnd t
  longFrom '"' true t.length t
| '\'' :: '\'' :: '\'' :: t =>
  let t := skipLineEnd t
  longFrom '\'' false t.length t
| t => readShort? t

------------------------------------------------------------
-- Keys
------------------------------------------------------------

/- The characters of keys that need no quotes. -/
def isKeyChar (c : Char) : Bool :=
  isAsciiWord c || c == '-'

/- Reads one part of a key. -/
def readName? (t : Text) : Option (Text × Text) :=
  match t with
  | '"' :: _ => readShort? t
  | '\'' :: _ => readShort? t
  | _ => Text.run? isKeyChar t

/- How many parts a key must stay below. -/
def depthLimit : Nat := 80

/- Reads the parts of a key, at most so far. -/
def namesFrom : Nat → Text → Option (List Text × Text)
| 0, _ => none
| fuel + 1, t => do
  let (name, rest) ← readName? (skipBlanks t)
  match skipBlanks rest with
  | '.' :: rest =>
    let (names, rest) ← namesFrom fuel rest
    return (name :: names, rest)
  | rest => return ([name], rest)

/- Reads a key: the parts before the last, and the last. -/
def readKey? (t : Text) :
    Option ((List Text × Text) × Text) := do
  let (names, rest) ← namesFrom (depthLimit - 1) t
  let last ← names.getLast?
  return ((names.dropLast, last), rest)

end Toml

end SourceDocs
