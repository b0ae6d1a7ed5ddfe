import SourceDocs.Text.HexDigits

/-
  Numbers, dates and times of TOML.

  Key definitions include:
    * `SourceDocs.Toml.isInteger`
    * `SourceDocs.Toml.isFloat`
    * `SourceDocs.Toml.isMoment`
    * `SourceDocs.Toml.readScalar?`

  Only their form is checked: no setting has such a value.
-/

------------------------------------------------------------
-- Digits
------------------------------------------------------------

namespace SourceDocs

namespace Toml

/-
  The digits of a text in which a single underscore may
  stand between two digits.
-/
def digitGroups?
    (isDigit : Char → Bool)
    (t : Text) : Option Text :=
  let groups := t.splitOn '_'
  if groups.all (fun g => g ≠ [] ∧ g.all isDigit) then
    some groups.flatten
  else none

/- The digits of a decimal number that has no idle zero. -/
def decimal? (t : Text) : Option Text :=
  (digitGroups? isAsciiDigit t).filter fun digits =>
    digits.length = 1 || digits.head? != some '0'

/- A text without the sign at its front, and if that is `-`. -/
def unsigned : Text → Text × Bool
| '-' :: t => (t, true)
| '+' :: t => (t, false)
| t => (t, false)

/- The number that digits of a base make up. -/
def number
    (base : Nat)
    (digits : Text) : Nat :=
  (digits.filterMap hexValue?).foldl
    (fun n d => base * n + d) 0

------------------------------------------------------------
-- Integers
------------------------------------------------------------

/- Whether digits of a base make up a number of 63 bits. -/
def isBased
    (base : Nat)
    (t : Text) : Bool :=
  let isDigit c := (hexValue? c).any (· < base)
  (digitGroups? isDigit t).any (number base · < Nat.pow 2 63)

/- Whether a text is an integer of 64 bits. -/
def isInteger (t : Text) : Bool :=
  match t with
  | '0' :: 'x' :: digits => isBased 16 digits
  | '0' :: 'o' :: digits => isBased 8 digits
  | '0' :: 'b' :: digits => isBased 2 digits
  | _ =>
    let (digits, negative) := unsigned t
    let most := Nat.pow 2 63
    let limit := if negative then most + 1 else most
    (decimal? digits).any (number 10 · < limit)

------------------------------------------------------------
-- Floats
------------------------------------------------------------

/-
  A decimal number: its digits, how many of them follow the
  point, and its exponent.
-/
structure FloatText where
  digits : Text
  places : Nat
  exponent : Int

/- An exponent, which may start with zeros. -/
def exponent? (t : Text) : Option Int :=
  let (digits, negative) := unsigned t
  (digitGroups? isAsciiDigit digits).map fun ds =>
    if negative then - Int.ofNat (number 10 ds)
    else Int.ofNat (number 10 ds)

/- The parts of a number with a point or an exponent. -/
def floatText? (t : Text) : Option FloatText :=
  let (front, tail) :=
    Text.run (fun c => !(c == 'e' || c == 'E')) t
  let exponent :=
    match tail with
    | [] => some 0
    | _ :: digits => exponent? digits
  match Text.cutAtChar? '.' front, tail with
  | none, [] => none
  | none, _ => do
    return ⟨← decimal? front, 0, ← exponent⟩
  | some (whole, places), _ => do
    let places ← digitGroups? isAsciiDigit places
    return ⟨(← decimal? whole) ++ places, places.length,
      ← exponent⟩

/-
  Whether a number is too large for 64 bits: at least half a
  step above the largest float. The count of its digits
  decides when it is far from that.
-/
def isTooLarge (n : FloatText) : Bool :=
  let significant := n.digits.dropWhile (· == '0')
  let shift := n.exponent - Int.ofNat n.places
  let magnitude := Int.ofNat significant.length + shift
  let bound := Nat.pow 2 1024 - Nat.pow 2 970
  if significant = [] ∨ magnitude < 309 then false
  else if magnitude > 309 then true
  else if shift < 0 then
    decide
      (bound * Nat.pow 10 shift.natAbs ≤ number 10 significant)
  else
    decide
      (bound ≤ number 10 significant * Nat.pow 10 shift.natAbs)

/- Whether a text is a float. -/
def isFloat (t : Text) : Bool :=
  let (rest, negative) := unsigned t
  rest == "inf".toList || rest == "nan".toList ||
    (floatText? rest).any fun n => negative || !isTooLarge n

------------------------------------------------------------
-- Dates And Times
------------------------------------------------------------

/- The number of so many digits at the front of a text. -/
def digits?
    (count : Nat)
    (t : Text) : Option (Nat × Text) :=
  let ds := t.take count
  if ds.length = count ∧ ds.all isAsciiDigit then
    some (number 10 ds, t.drop count)
  else none

/- What follows a character at the front of a text. -/
def past?
    (c : Char)
    (t : Text) : Option Text :=
  Text.after? [c] t

/- How many days a month has. -/
def daysOf (year month : Nat) : Nat :=
  let isLeap :=
    year % 4 = 0 ∧ (year % 100 ≠ 0 ∨ year % 400 = 0)
  if month = 2 then (if isLeap then 29 else 28)
  else if month ∈ [4, 6, 9, 11] then 30
  else 31

/- What follows a date. -/
def afterDate? (t : Text) : Option Text := do
  let (year, t) ← digits? 4 t
  let (month, t) ← digits? 2 (← past? '-' t)
  let (day, t) ← digits? 2 (← past? '-' t)
  if 1 ≤ month ∧ month ≤ 12 ∧ 1 ≤ day ∧
      day ≤ daysOf year month then
    return t
  else none

/- What follows hours and minutes. -/
def afterMinutes? (t : Text) : Option Text := do
  let (hour, t) ← digits? 2 t
  let (minute, t) ← digits? 2 (← past? ':' t)
  if hour ≤ 23 ∧ minute ≤ 59 then return t else none

/- What follows the parts of a second, if there are any. -/
def afterFraction? (t : Text) : Option Text :=
  match t with
  | '.' :: t => (Text.run? isAsciiDigit t).map (·.2)
  | _ => some t

/- What follows a time. -/
def afterTime? (t : Text) : Option Text := do
  let t ← afterMinutes? t
  let (second, t) ← digits? 2 (← past? ':' t)
  if second ≤ 60 then afterFraction? t else none

/- Whether a text is nothing or the offset of a zone. -/
def isOffset (t : Text) : Bool :=
  match t with
  | [] => true
  | ['Z'] => true
  | ['z'] => true
  | '+' :: t => afterMinutes? t == some []
  | '-' :: t => afterMinutes? t == some []
  | _ => false

/- Whether a text is a date or a time or both. -/
def isMoment (t : Text) : Bool :=
  match afterDate? t with
  | none => afterTime? t == some []
  | some [] => true
  | some (c :: time) =>
    (c == 'T' || c == 't' || c == ' ') &&
      (afterTime? time).any isOffset

------------------------------------------------------------
-- Reading
------------------------------------------------------------

/- The characters that scalars are made of. -/
def isScalarChar (c : Char) : Bool :=
  isAsciiLetter c || isAsciiDigit c ||
    ['+', '-', '.', ':', '_'].contains c

/- Whether a text is a scalar. -/
def isScalar (t : Text) : Bool :=
  t == "true".toList || t == "false".toList ||
    isInteger t || isFloat t || isMoment t

/-
  What follows a scalar. A blank may stand between a date
  and a time.
-/
def readScalar? (t : Text) : Option Text :=
  let (front, rest) := Text.run isScalarChar t
  if !isScalar front then none
  else
    match afterDate? front, rest with
    | some [], ' ' :: c :: more =>
      if isAsciiDigit c then
        let (time, rest) := Text.run isScalarChar (c :: more)
        if isScalar (front ++ ' ' :: time) then some rest
        else none
      else some rest
    | _, _ => some rest

end Toml

end SourceDocs
