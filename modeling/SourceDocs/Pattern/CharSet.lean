import SourceDocs.Text.LetterCase
import SourceDocs.Text.ScriptTable

/-
  Sets of characters, as patterns describe them.

  Key definitions include:
    * `SourceDocs.CharProperty`
    * `SourceDocs.CharSet`
    * `SourceDocs.CharSet.contains`
    * `SourceDocs.CharSet.spread`
-/

------------------------------------------------------------
-- Properties
------------------------------------------------------------

namespace SourceDocs

/- Which characters the named classes of a pattern know. -/
inductive Repertoire where
  | ascii
  | unicode
  deriving DecidableEq, Repr

/- A script that patterns can name. -/
inductive Script where
  | latin
  | greek
  | cyrillic
  | armenian
  | hebrew
  | arabic
  | devanagari
  | thai
  | hangul
  | hiragana
  | katakana
  | han
  deriving DecidableEq, Repr

/- The code points of a script. -/
def Script.ranges : Script → List CharRange
| .latin => ScriptTable.latin
| .greek => ScriptTable.greek
| .cyrillic => ScriptTable.cyrillic
| .armenian => ScriptTable.armenian
| .hebrew => ScriptTable.hebrew
| .arabic => ScriptTable.arabic
| .devanagari => ScriptTable.devanagari
| .thai => ScriptTable.thai
| .hangul => ScriptTable.hangul
| .hiragana => ScriptTable.hiragana
| .katakana => ScriptTable.katakana
| .han => ScriptTable.han

/- A property of characters with a name of its own. -/
inductive CharProperty where
  | anyOf (categories : List Category)
  | script (s : Script)
  | assigned
  | word
  | blank
  | upper
  | lower
  | alphabetic
  deriving DecidableEq, Repr

namespace CharProperty

/- Whether a character has a property. -/
def holdsOf : CharProperty → Char → Bool
| .anyOf categories, c => Category.anyContains categories c
| .script s, c => CharRange.anyContains s.ranges c
| .assigned, c => Category.anyContains Category.all c
| .word, c => isWord c
| .blank, c => isBlank c
| .upper, c => isUpper c
| .lower, c => isLower c
| .alphabetic, c => isAlphabetic c

/- How many ranges the categories have between them. -/
def rangeCount (categories : List Category) : Nat :=
  categories.foldr (fun g n => g.ranges.length + n) 0

/- About how many ranges the characters of a property form. -/
def spread : CharProperty → Nat
| .anyOf categories => rangeCount categories
| .script s => s.ranges.length
| .assigned => rangeCount Category.all
| .word =>
  rangeCount
    (Category.letters ++ Category.marks ++ [.decimalDigit])
| .blank => 10
| .upper => rangeCount [.upperLetter]
| .lower => rangeCount [.lowerLetter]
| .alphabetic =>
  rangeCount Category.letters + MarkTable.letterMarks.length

end CharProperty

------------------------------------------------------------
-- Sets
------------------------------------------------------------

/-
  A set of characters. The set `folded` has also those that
  differ in case only, as the repertoire tells case.
-/
inductive CharSet where
  | none
  | range (first last : Char)
  | property (p : CharProperty)
  | union (a b : CharSet)
  | meet (a b : CharSet)
  | minus (a b : CharSet)
  | folded (known : Repertoire) (a : CharSet)
  deriving DecidableEq, Repr

namespace CharSet

/- A letter of ASCII in the other case. -/
def otherAsciiCase (c : Char) : Char :=
  if isAsciiUpper c then Char.ofNat (c.toNat + 32)
  else if isAsciiLower c then Char.ofNat (c.toNat - 32)
  else c

/- A character with those that differ from it in case. -/
def caseClass
    (known : Repertoire)
    (c : Char) : List Char :=
  match known with
  | .ascii => [c, otherAsciiCase c]
  | .unicode => c :: caseVariants c

/- Whether a set has a character. -/
def contains : CharSet → Char → Bool
| .none, _ => false
| .range first last, c => first ≤ c && c ≤ last
| .property p, c => p.holdsOf c
| .union a b, c => a.contains c || b.contains c
| .meet a b, c => a.contains c && b.contains c
| .minus a b, c => a.contains c && !b.contains c
| .folded known a, c => (caseClass known c).any a.contains

/- The set of a single character. -/
def single (c : Char) : CharSet :=
  .range c c

/- The set of the characters that are listed. -/
def ofList (cs : List Char) : CharSet :=
  cs.foldr (fun c rest => .union (single c) rest) .none

/-
  All characters of a repertoire. Outside of Unicode the
  characters up to 255 stand for single octets.
-/
def all : Repertoire → CharSet
| .ascii => .range (Char.ofNat 0) (Char.ofNat 0xFF)
| .unicode => .range (Char.ofNat 0) (Char.ofNat 0x10FFFF)

/- The other characters of a repertoire. -/
def complement
    (known : Repertoire)
    (a : CharSet) : CharSet :=
  .minus (all known) a

/- The characters in exactly one of two sets. -/
def apart (a b : CharSet) : CharSet :=
  .union (.minus a b) (.minus b a)

/- The complement of a set if it is wanted. -/
def complementIf
    (negated : Bool)
    (known : Repertoire)
    (a : CharSet) : CharSet :=
  if negated then complement known a else a

/- Whether a set has none of the octets past ASCII. -/
def isAsciiOnly (a : CharSet) : Bool :=
  (List.range 0x80).all fun n =>
    !a.contains (Char.ofNat (0x80 + n))

/- About how many ranges a set has. -/
def spread : CharSet → Nat
| .none => 0
| .range _ _ => 1
| .property p => p.spread
| .union a b => a.spread + b.spread
| .meet a b => a.spread + b.spread
| .minus a b => a.spread + b.spread
| .folded _ a => 2 * a.spread

------------------------------------------------------------
-- Classes With A Letter
------------------------------------------------------------

/- The digits of a repertoire. -/
def digits : Repertoire → CharSet
| .ascii => .range '0' '9'
| .unicode => .property (.anyOf [.decimalDigit])

/- The blanks of a repertoire. -/
def blanks : Repertoire → CharSet
| .ascii =>
  .union (.range (Char.ofNat 9) (Char.ofNat 13)) (single ' ')
| .unicode => .property .blank

/- The letters of ASCII. -/
def asciiLetters : CharSet :=
  .union (.range 'A' 'Z') (.range 'a' 'z')

/- The letters and digits of ASCII. -/
def asciiAlphanumerics : CharSet :=
  .union (.range '0' '9') asciiLetters

/- The word characters of a repertoire. -/
def wordCharacters : Repertoire → CharSet
| .ascii => .union asciiAlphanumerics (single '_')
| .unicode => .property .word

end CharSet

end SourceDocs
