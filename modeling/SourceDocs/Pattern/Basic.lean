import SourceDocs.Pattern.CharSet

/-
  Patterns and where they occur in a text.

  Key definitions include:
    * `SourceDocs.Assertion`
    * `SourceDocs.Pattern`
    * `SourceDocs.Pattern.skips`
    * `SourceDocs.Pattern.remainders`
    * `SourceDocs.Pattern.occursIn`

  A search carries the patterns that are still to be matched
  along the text. Each character turns a pattern into those
  for what may follow it, of which there are few.
-/

------------------------------------------------------------
-- Assertions
------------------------------------------------------------

namespace SourceDocs

/- A gap in a text: the characters before and after it. -/
structure Gap where
  before : Option Char
  after : Option Char
  deriving DecidableEq, Repr

/-
  What a pattern can ask of a gap. With `returns` a carriage
  return ends a line too, alone or with a line feed.
-/
inductive Assertion where
  | textStart
  | textEnd
  | lineStart (returns : Bool)
  | lineEnd (returns : Bool)
  | wordEdge (known : Repertoire)
  | noWordEdge (known : Repertoire)
  | wordStart (known : Repertoire)
  | wordEnd (known : Repertoire)
  | noWordBefore (known : Repertoire)
  | noWordAfter (known : Repertoire)
  deriving DecidableEq, Repr

namespace Assertion

/- Whether a neighbour of a gap is a word character. -/
def isWordOf
    (known : Repertoire)
    (neighbour : Option Char) : Bool :=
  neighbour.any (CharSet.wordCharacters known).contains

/- Whether an assertion holds of a gap. -/
def holdsAt : Assertion → Gap → Bool
| .textStart, g => g.before.isNone
| .textEnd, g => g.after.isNone
| .lineStart false, g =>
  g.before.isNone || g.before == some '\n'
| .lineStart true, g =>
  g.before.isNone || g.before == some '\n' ||
    (g.before == some '\r' && g.after != some '\n')
| .lineEnd false, g =>
  g.after.isNone || g.after == some '\n'
| .lineEnd true, g =>
  g.after.isNone || g.after == some '\r' ||
    (g.after == some '\n' && g.before != some '\r')
| .wordEdge known, g =>
  isWordOf known g.before != isWordOf known g.after
| .noWordEdge known, g =>
  isWordOf known g.before == isWordOf known g.after
| .wordStart known, g =>
  !isWordOf known g.before && isWordOf known g.after
| .wordEnd known, g =>
  isWordOf known g.before && !isWordOf known g.after
| .noWordBefore known, g => !isWordOf known g.before
| .noWordAfter known, g => !isWordOf known g.after

end Assertion

------------------------------------------------------------
-- Patterns
------------------------------------------------------------

/-
  A pattern. In `rounds a least most` the pattern `a` is
  matched at least and at most so many times in a row.
-/
inductive Pattern where
  | empty
  | one (set : CharSet)
  | check (a : Assertion)
  | both (a b : Pattern)
  | either (a b : Pattern)
  | rounds (a : Pattern) (least : Nat) (most : Option Nat)
  deriving DecidableEq, Repr

namespace Pattern

/- One pattern after another. -/
def andThen : Pattern → Pattern → Pattern
| .empty, b => b
| a, .empty => a
| a, b => .both a b

/- Whether a pattern matches the empty text at a gap. -/
def skips (g : Gap) : Pattern → Bool
| .empty => true
| .one _ => false
| .check a => a.holdsAt g
| .both a b => skips g a && skips g b
| .either a b => skips g a || skips g b
| .rounds a least _ => least == 0 || skips g a

/-
  The patterns for what may follow a character behind a gap
  when a pattern is matched from the gap on. A round that
  can be skipped at the gap takes its part in no minimum.
-/
def remainders
    (g : Gap)
    (c : Char) : Pattern → List Pattern
| .empty => []
| .one set => if set.contains c then [.empty] else []
| .check _ => []
| .both a b =>
  (remainders g c a).map (andThen · b) ++
    (if skips g a then remainders g c b else [])
| .either a b => remainders g c a ++ remainders g c b
| .rounds a least most =>
  if most = some 0 then []
  else
    let left := if skips g a then 0 else least - 1
    let rest := .rounds a left (most.map (· - 1))
    (remainders g c a).map (andThen · rest)

/- Adds a pattern to others unless it is there. -/
def enter
    (pattern : Pattern)
    (others : List Pattern) : List Pattern :=
  if others.contains pattern then others
  else pattern :: others

/-
  Whether a pattern, or one of those that are `pending`,
  matches at or after the front of a text.
-/
def occursFrom
    (pattern : Pattern)
    (pending : List Pattern)
    (before : Option Char) : Text → Bool
| [] =>
  (enter pattern pending).any (·.skips ⟨before, none⟩)
| c :: cs =>
  let g : Gap := ⟨before, some c⟩
  let current := enter pattern pending
  current.any (·.skips g) ||
    occursFrom pattern
      ((current.flatMap (·.remainders g c)).foldr enter [])
      (some c) cs

/- Whether a pattern matches somewhere in a text. -/
def occursIn
    (pattern : Pattern)
    (t : Text) : Bool :=
  pattern.occursFrom [] none t

------------------------------------------------------------
-- Size
------------------------------------------------------------

/- Octets for a character set, unfolded into octet ranges. -/
def setSize : CharSet → Nat
| .range first last =>
  if first = last then 32 * first.utf8Size else 64
| set => 64 * set.spread

/- Whether a pattern matches nothing but the empty text. -/
def isWidthless : Pattern → Bool
| .empty => true
| .one _ => false
| .check _ => true
| .both a b => isWidthless a && isWidthless b
| .either a b => isWidthless a && isWidthless b
| .rounds a _ most => isWidthless a || most == some 0

/- About how many octets a pattern takes without rounds. -/
def unfoldedSize : Pattern → Nat
| .empty => 0
| .one set => setSize set
| .check _ => 32
| .both a b => unfoldedSize a + unfoldedSize b
| .either a b => unfoldedSize a + unfoldedSize b
| .rounds a least most =>
  if isWidthless a then unfoldedSize a
  else unfoldedSize a * most.getD (max 1 least)

/- The size that no pattern may pass. -/
def sizeLimit : Nat := 10 * Nat.pow 2 20

end Pattern

end SourceDocs
