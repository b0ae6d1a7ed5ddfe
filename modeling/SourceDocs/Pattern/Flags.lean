import SourceDocs.Pattern.CharSet
import SourceDocs.Text.Basic

/-
  The flags of a pattern, and what they mean for the blanks
  in its text.

  Key definitions include:
    * `SourceDocs.Flags`
    * `SourceDocs.Flags.skip`
    * `SourceDocs.Flags.braced`
    * `SourceDocs.FlagChange`
-/

------------------------------------------------------------
-- Flags
------------------------------------------------------------

namespace SourceDocs

/- The settings under which a part of a pattern is read. -/
structure Flags where
  /- Case makes no difference. -/
  anyCase : Bool
  /- The anchors `^` and `$` speak of lines. -/
  lines : Bool
  /- A dot matches the ends of lines too. -/
  dotAll : Bool
  /- Carriage returns end lines. -/
  returns : Bool
  /- Blanks and comments mean nothing. -/
  spaced : Bool
  /- What the named classes range over. -/
  known : Repertoire
  deriving DecidableEq, Repr

namespace Flags

/- The flags at the start of a pattern. -/
def start : Flags :=
  ⟨false, false, false, false, false, .unicode⟩

/- A set with case as the flags have it. -/
def fold
    (flags : Flags)
    (set : CharSet) : CharSet :=
  if flags.anyCase then .folded flags.known set else set

/-
  The set of a class, its complement if that is wanted. The
  octets past ASCII are no characters, so that without
  Unicode no class may have them.
-/
def finish
    (flags : Flags)
    (negated : Bool)
    (set : CharSet) : Option CharSet :=
  let whole := CharSet.complementIf negated flags.known set
  if flags.known = .ascii ∧ !whole.isAsciiOnly then none
  else some whole

------------------------------------------------------------
-- Blanks And Comments
------------------------------------------------------------

/- A text from the first character that means something on. -/
def skipFrom (inComment : Bool) : Text → Text
| [] => []
| c :: cs =>
  if inComment then skipFrom (c ≠ '\n') cs
  else if isBlank c then skipFrom false cs
  else if c = '#' then skipFrom true cs
  else c :: cs

/- A text without blanks and comments at its front. -/
def skip
    (flags : Flags)
    (t : Text) : Text :=
  if flags.spaced then skipFrom false t else t

/- What stands before the next closing brace, and after it. -/
def bracedFrom
    (spaced inComment : Bool) : Text → Option (Text × Text)
| [] => none
| c :: cs =>
  if inComment then bracedFrom spaced (c ≠ '\n') cs
  else if spaced && isBlank c then bracedFrom spaced false cs
  else if spaced && c = '#' then bracedFrom spaced true cs
  else if c = '\x7d' then some ([], cs)
  else
    (bracedFrom spaced false cs).map fun (inside, rest) =>
      (c :: inside, rest)

/- What stands in the braces that are open, and after them. -/
def braced
    (flags : Flags)
    (t : Text) : Option (Text × Text) :=
  bracedFrom flags.spaced false t

end Flags

------------------------------------------------------------
-- Changes
------------------------------------------------------------

/- Letters of flags, each with what it is set to. -/
abbrev FlagChange :=
  List (Char × Bool)

namespace FlagChange

/- The letters of the flags. -/
def letters : List Char :=
  ['i', 'm', 's', 'U', 'u', 'R', 'x']

/-
  Reads letters up to a colon or a closing bracket, which it
  gives with what follows. No letter comes twice, and the
  one hyphen that turns flags off comes before a letter.
-/
def readFrom
    (seen : FlagChange)
    (value : Bool)
    (afterHyphen : Bool) :
    Text → Option (FlagChange × Char × Text)
| [] => none
| c :: cs =>
  if c = ':' ∨ c = ')' then
    if afterHyphen then none else some (seen, c, cs)
  else if c = '-' then
    if value then readFrom seen false true cs else none
  else if c ∈ letters ∧ c ∉ seen.map Prod.fst then
    readFrom (seen ++ [(c, value)]) value false cs
  else none

/- Reads the letters of flags. -/
def read (t : Text) : Option (FlagChange × Char × Text) :=
  readFrom [] true false t

end FlagChange

/- The flags after one is set. -/
def Flags.set
    (flags : Flags) : Char × Bool → Flags
| ('i', b) => { flags with anyCase := b }
| ('m', b) => { flags with lines := b }
| ('s', b) => { flags with dotAll := b }
| ('R', b) => { flags with returns := b }
| ('x', b) => { flags with spaced := b }
| ('u', b) =>
  { flags with known := if b then .unicode else .ascii }
| _ => flags

/- The flags after a change. -/
def Flags.apply
    (flags : Flags)
    (change : FlagChange) : Flags :=
  change.foldl Flags.set flags

end SourceDocs
