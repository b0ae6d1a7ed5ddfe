import SourceDocs.Markdown.Link
import SourceDocs.Text.LetterCase

/-
  Headings of the second level, their slugs, and the
  entities that they name.

  Key definitions include:
    * `SourceDocs.Heading.ofLine?`
    * `SourceDocs.Heading.all`
    * `SourceDocs.Heading.slug`
    * `SourceDocs.Heading.entity?`
-/

------------------------------------------------------------
-- Heading Lines
------------------------------------------------------------

namespace SourceDocs

namespace Heading

/-
  The heading on a line: two number signs, a space or a tab
  and at least one more character. The heading is what they
  leave, trimmed.
-/
def ofLine? : Text → Option Text
| '#' :: '#' :: blank :: c :: cs =>
  if isSpaceOrTab blank then some (Text.trim (c :: cs))
  else none
| _ => none

/- The headings of a text, in order. -/
def all (t : Text) : List Text :=
  (t.splitOn '\n').filterMap ofLine?

------------------------------------------------------------
-- Slugs
------------------------------------------------------------

/- What a slug keeps of a character. -/
def slugChar? (c : Char) : Option Char :=
  if isBlank c || c == '_' then some '-'
  else if isAsciiLower c || isAsciiDigit c || c == '-' then
    some c
  else none

/- A text with a single hyphen for each run of them. -/
def squeeze : Text → Text
| '-' :: '-' :: cs => squeeze ('-' :: cs)
| c :: cs => c :: squeeze cs
| [] => []

/- A text without hyphens at either end. -/
def trimHyphens (t : Text) : Text :=
  Text.dropEndWhile (· == '-') (t.dropWhile (· == '-'))

/- The slug of a heading that leaves none. -/
def emptySlug : Text :=
  "section".toList

/-
  The slug of a heading: its links stripped, in lower case,
  with hyphens for blanks and underscores, and without
  everything but small letters, digits and single hyphens.
-/
def slug (heading : Text) : Text :=
  let lowered := Text.toLower (Text.trim (Link.strip heading))
  let kept := trimHyphens (squeeze (lowered.filterMap slugChar?))
  if kept = [] then emptySlug else kept

------------------------------------------------------------
-- Entities
------------------------------------------------------------

/- Whether a name goes on with a character. -/
def isNameChar (c : Char) : Bool :=
  isWord c || c == '.'

/- The name at the front of a text, from a letter on. -/
def leadingName? : Text → Option Text
| c :: cs =>
  if isAsciiLetter c then some (c :: cs.takeWhile isNameChar)
  else none
| [] => none

/- The entity that a heading names. -/
def entity? (heading : Text) : Option Text :=
  leadingName? (Text.trim (Link.strip heading))

end Heading

------------------------------------------------------------
-- Anchors
------------------------------------------------------------

/- A heading with its slug. -/
structure Anchor where
  heading : Text
  slug : Text
  deriving DecidableEq, Repr

namespace Anchor

/- The anchor of a heading. -/
def ofHeading (heading : Text) : Anchor :=
  ⟨heading, Heading.slug heading⟩

/- The anchors of a text, in order. -/
def all (t : Text) : List Anchor :=
  (Heading.all t).map ofHeading

end Anchor

end SourceDocs
