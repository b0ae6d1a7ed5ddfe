/-
  Ranges of code points, for the tables of character
  properties.

  Key definitions include:
    * `SourceDocs.CharRange.contains`
    * `SourceDocs.CaseShift.image?`
    * `SourceDocs.CaseShift.origin?`
-/

------------------------------------------------------------
-- Ranges
------------------------------------------------------------

namespace SourceDocs

/-
  The code points from `first` to `last` that lie a multiple
  of `step` behind `first`.
-/
structure CharRange where
  first : Nat
  last : Nat
  step : Nat

namespace CharRange

/- Whether a code point lies in the range. -/
def contains
    (r : CharRange)
    (n : Nat) : Bool :=
  decide (r.first ≤ n) && decide (n ≤ r.last) &&
    (n - r.first) % r.step == 0

/- Whether a character lies in one of the ranges. -/
def anyContains
    (rs : List CharRange)
    (c : Char) : Bool :=
  rs.any (·.contains c.toNat)

end CharRange

------------------------------------------------------------
-- Shifted Ranges
------------------------------------------------------------

/-
  A range of code points and the code points that they are
  mapped to: the first goes to `target`, and all keep their
  distances.
-/
structure CaseShift where
  first : Nat
  last : Nat
  step : Nat
  target : Nat

namespace CaseShift

/- Where the shift takes a code point of its range. -/
def image?
    (s : CaseShift)
    (n : Nat) : Option Nat :=
  if CharRange.contains ⟨s.first, s.last, s.step⟩ n then
    some (s.target + (n - s.first))
  else
    none

/- The code point of its range that the shift takes here. -/
def origin?
    (s : CaseShift)
    (n : Nat) : Option Nat :=
  if s.target ≤ n ∧
      CharRange.contains ⟨s.first, s.last, s.step⟩
        (s.first + (n - s.target)) then
    some (s.first + (n - s.target))
  else
    none

end CaseShift

end SourceDocs
