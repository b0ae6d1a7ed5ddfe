import SourceDocs.Text.CharClass

/-
  Texts, as lists of characters.

  Key definitions include:
    * `SourceDocs.Text`
    * `SourceDocs.Text.trim`
    * `SourceDocs.Text.words`
    * `SourceDocs.Text.after?`
    * `SourceDocs.Text.cutAt?`
    * `SourceDocs.Text.lines`
    * `SourceDocs.Text.ofLines`
    * `SourceDocs.Text.byteLength`
-/

------------------------------------------------------------
-- Texts
------------------------------------------------------------

namespace SourceDocs

/- A text: its characters in order. -/
abbrev Text := List Char

instance : LawfulBEq Text :=
  inferInstanceAs (LawfulBEq (List Char))

namespace Text

/-
  What holds of every character of a text is decided on the
  text, not on all the characters that there are.
-/
instance decidableForallMem
    (p : Char → Prop)
    [DecidablePred p]
    (t : Text) : Decidable (∀ c ∈ t, p c) :=
  List.decidableBAll p t

/- A number in decimal digits. -/
def ofNat (n : Nat) : Text :=
  Nat.toDigits 10 n

/- How many octets a text takes in UTF-8. -/
def byteLength (t : Text) : Nat :=
  t.foldr (fun c n => c.utf8Size + n) 0

/- How many line ends a text holds. -/
def lineEnds (t : Text) : Nat :=
  t.count '\n'

------------------------------------------------------------
-- Trimming And Words
------------------------------------------------------------

/- The text without the last characters that satisfy `p`. -/
def dropEndWhile
    (p : Char → Bool)
    (t : Text) : Text :=
  (t.reverse.dropWhile p).reverse

/- The text without blanks at its front. -/
def trimStart (t : Text) : Text :=
  t.dropWhile isBlank

/- The text without blanks at its end. -/
def trimEnd (t : Text) : Text :=
  t.dropEndWhile isBlank

/- The text without blanks at either end. -/
def trim (t : Text) : Text :=
  trimEnd (trimStart t)

/- The stretches between blanks that are not empty. -/
def words (t : Text) : List Text :=
  (t.splitOnP isBlank).filter (· ≠ [])

------------------------------------------------------------
-- Parts Of A Text
------------------------------------------------------------

/- What follows `front` at the start of a text. -/
def after?
    (front : Text)
    (t : Text) : Option Text :=
  match front, t with
  | [], t => some t
  | _ :: _, [] => none
  | f :: fs, c :: cs => if f = c then after? fs cs else none

/-
  The text before and the text after the first place where
  `mark` stands.
-/
def cutAt?
    (mark : Text) : Text → Option (Text × Text)
| [] =>
  if mark = [] then some ([], []) else none
| c :: cs =>
  match after? mark (c :: cs) with
  | some rest => some ([], rest)
  | none =>
    (cutAt? mark cs).map fun (before, rest) =>
      (c :: before, rest)

/- The longest front of characters `p`, and what follows. -/
def run
    (p : Char → Bool)
    (t : Text) : Text × Text :=
  (t.takeWhile p, t.dropWhile p)

/- The same, for a front that has to be there. -/
def run?
    (p : Char → Bool)
    (t : Text) : Option (Text × Text) :=
  if (t.takeWhile p).isEmpty then none else some (run p t)

/- Whether `part` stands somewhere in the text. -/
def holds
    (t : Text)
    (part : Text) : Bool :=
  (cutAt? part t).isSome

/- The text before and the text after the first `mark`. -/
def cutAtChar?
    (mark : Char)
    (t : Text) : Option (Text × Text) :=
  match t.dropWhile (· ≠ mark) with
  | [] => none
  | _ :: rest => some (t.takeWhile (· ≠ mark), rest)

/- The text before and the text after the last `mark`. -/
def cutAtLast?
    (mark : Char → Bool)
    (t : Text) : Option (Text × Text) :=
  match t.reverse.dropWhile (!mark ·) with
  | [] => none
  | _ :: rest =>
    some (rest.reverse,
      (t.reverse.takeWhile (!mark ·)).reverse)

/- What follows the last `mark`; all of a text without one. -/
def afterLast
    (mark : Char)
    (t : Text) : Text :=
  (t.reverse.takeWhile (· ≠ mark)).reverse

/- Joins texts, with a separator between two of them. -/
def join
    (separator : Text)
    (ts : List Text) : Text :=
  List.intercalate separator ts

/- Every `old` character turned into `new`. -/
def replaceChar
    (old new : Char)
    (t : Text) : Text :=
  t.map fun c => if c = old then new else c

------------------------------------------------------------
-- Lines
------------------------------------------------------------

/- A line with the line feed that ends it. -/
def line (t : Text) : Text :=
  t ++ ['\n']

/- The text of lines. -/
def ofLines (lines : List Text) : Text :=
  lines.flatMap line

/- A line without the carriage return at its end. -/
def dropReturn (line : Text) : Text :=
  match line.reverse with
  | '\r' :: rest => rest.reverse
  | _ => line

/-
  The lines of a text. A line ends at a line feed, with the
  carriage return before it; what follows the last one is a
  line if it is not empty.
-/
def lines (t : Text) : List Text :=
  let parts := t.splitOn '\n'
  parts.dropLast.map dropReturn ++
    parts.getLast?.toList.filter (· ≠ [])

end Text

end SourceDocs
