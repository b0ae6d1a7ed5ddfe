import SourceDocs.Text.Occurrence

/-
  Fences of code blocks in documents.

  A fence is three backticks. Behind an odd number of fences
  a document holds code, which is never changed.

  Key definitions include:
    * `SourceDocs.Fence.count`
    * `SourceDocs.Fence.replaceOutside`
-/

------------------------------------------------------------
-- Counting
------------------------------------------------------------

namespace SourceDocs

namespace Fence

/- How many fences a text holds, overlaps not counted. -/
def count : Text → Nat
| '\x60' :: '\x60' :: '\x60' :: rest => count rest + 1
| _ :: rest => count rest
| [] => 0

/- Whether a place behind so many fences is no code. -/
def isOutside (fences : Nat) : Bool :=
  fences % 2 == 0

------------------------------------------------------------
-- Replacing
------------------------------------------------------------

variable {α : Type}

/-
  The replaced occurrences with the gaps before them, and
  how many changed; `fences` fences stand before them all.
-/
def replaceFrom
    (write : Occurrence α → Text)
    (fences : Nat) :
    List (Occurrence α) → Text × Nat
| [] => ([], 0)
| o :: os =>
  let start := fences + count o.gap
  let written := if isOutside start then write o else o.covered
  let (after, changed) :=
    replaceFrom write (start + count o.covered) os
  (o.gap ++ written ++ after,
    changed + if written = o.covered then 0 else 1)

/-
  Replaces the occurrences of a pattern that start outside
  of code. The number tells how many came out different.
-/
def replaceOutside
    (read : Reader α)
    (write : Occurrence α → Text)
    (t : Text) : Text × Nat :=
  let cut := t.cut read
  let (before, changed) := replaceFrom write 0 cut.occurrences
  (before ++ cut.rest, changed)

end Fence

end SourceDocs
