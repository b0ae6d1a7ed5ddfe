import SourceDocs.Text.Basic

/-
  The occurrences of a pattern in a text.

  A reader looks at the front of a text and says what it
  finds there. Cutting a text with a reader finds its
  occurrences from left to right: an occurrence starts at
  the first place where the reader finds something, and the
  next one is looked for behind it. A find that covers no
  character is no occurrence.

  Key definitions include:
    * `SourceDocs.Reader`
    * `SourceDocs.Occurrence`
    * `SourceDocs.Cut`
    * `SourceDocs.Text.cut`
    * `SourceDocs.Cut.replace`
    * `SourceDocs.Cut.numbered`
-/

------------------------------------------------------------
-- Readers
------------------------------------------------------------

namespace SourceDocs

/-
  Given the character before a text and the text, a reader
  finds a value there, with the text that it covers.
-/
abbrev Reader (α : Type) :=
  Option Char → Text → Option (α × Text)

/- Reads a fixed text. -/
def Reader.literal (mark : Text) : Reader Unit :=
  fun _ t =>
    (Text.after? mark t).map fun _ => ((), mark)

/- Whether a place is the start of a line. -/
def atLineStart (before : Option Char) : Bool :=
  before == none || before == some '\n'

/- Whether a word that starts here is not cut off in front. -/
def atWordStart (before : Option Char) : Bool :=
  !before.any isWord

------------------------------------------------------------
-- Cuts
------------------------------------------------------------

/-
  One occurrence: the text between the occurrence before and
  this one, what was read, the text it covers, and all the
  text that follows.
-/
structure Occurrence (α : Type) where
  gap : Text
  value : α
  covered : Text
  after : Text

/- The occurrences of a text and the text behind the last. -/
structure Cut (α : Type) where
  occurrences : List (Occurrence α)
  rest : Text

namespace Cut

/- Puts an occurrence in front. -/
def cons
    {α : Type}
    (o : Occurrence α)
    (cut : Cut α) : Cut α :=
  ⟨o :: cut.occurrences, cut.rest⟩

end Cut

namespace Text

/-
  Cuts a text whose first `skip` characters belong to the
  occurrence before; `gap` holds the characters since that
  one, nearest first.
-/
def cutFrom
    {α : Type}
    (read : Reader α)
    (before : Option Char)
    (skip : Nat)
    (gap : Text) : Text → Cut α
| [] => ⟨[], gap.reverse⟩
| c :: cs =>
  match skip with
  | skip + 1 => cutFrom read (some c) skip gap cs
  | 0 =>
    match read before (c :: cs) with
    | some (value, d :: ds) =>
      Cut.cons
        ⟨gap.reverse, value, d :: ds, cs.drop ds.length⟩
        (cutFrom read (some c) ds.length [] cs)
    | _ => cutFrom read (some c) 0 (c :: gap) cs

/- Cuts a text at the occurrences of a pattern. -/
def cut
    {α : Type}
    (t : Text)
    (read : Reader α) : Cut α :=
  cutFrom read none 0 [] t

/- The first occurrence of a pattern in a text. -/
def findFirst?
    {α : Type}
    (t : Text)
    (read : Reader α) : Option (Occurrence α) :=
  (t.cut read).occurrences.head?

/- What is read at each occurrence of a pattern. -/
def findAll
    {α : Type}
    (t : Text)
    (read : Reader α) : List α :=
  (t.cut read).occurrences.map (·.value)

end Text

------------------------------------------------------------
-- Using A Cut
------------------------------------------------------------

namespace Cut

variable {α : Type}

/- The text with other texts in place of the occurrences. -/
def replace
    (cut : Cut α)
    (write : Occurrence α → Text) : Text :=
  cut.occurrences.flatMap (fun o => o.gap ++ write o) ++
    cut.rest

/-
  Each occurrence with the number of the line it starts on,
  if the text starts on line `line`.
-/
def numberedFrom
    (line : Nat) :
    List (Occurrence α) → List (Nat × Occurrence α)
| [] => []
| o :: os =>
  let start := line + o.gap.lineEnds
  (start, o) ::
    numberedFrom (start + Text.lineEnds o.covered) os

/- Each occurrence with the line it starts on. -/
def numbered
    (cut : Cut α)
    (line : Nat) : List (Nat × Occurrence α) :=
  numberedFrom line cut.occurrences

end Cut

namespace Text

/- Every `old` in a text replaced by `new`, left to right. -/
def replaceAll
    (old new : Text)
    (t : Text) : Text :=
  (t.cut (Reader.literal old)).replace fun _ => new

/- How often `mark` occurs, overlaps not counted. -/
def countOf
    (mark : Text)
    (t : Text) : Nat :=
  (t.cut (Reader.literal mark)).occurrences.length

end Text

end SourceDocs
