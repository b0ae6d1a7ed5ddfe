import SourceDocs.Text.Basic

/-
  Numbers in hexadecimal digits, and the characters that
  they stand for.

  Key definitions include:
    * `SourceDocs.hexValue?`
    * `SourceDocs.hexNumber?`
    * `SourceDocs.charOfHex?`
-/

namespace SourceDocs

/- The value of a hexadecimal digit. -/
def hexValue? (c : Char) : Option Nat :=
  if isAsciiDigit c then some (c.toNat - '0'.toNat)
  else if 'a' ≤ c ∧ c ≤ 'f' then
    some (c.toNat - 'a'.toNat + 10)
  else if 'A' ≤ c ∧ c ≤ 'F' then
    some (c.toNat - 'A'.toNat + 10)
  else none

/- The number that hexadecimal digits make up. -/
def hexNumber? (digits : Text) : Option Nat :=
  if digits = [] then none
  else
    (digits.mapM hexValue?).map fun values =>
      values.foldl (fun n d => 16 * n + d) 0

/- The character of a number, if there is one. -/
def charOfNat? (n : Nat) : Option Char :=
  if n.isValidChar then some (Char.ofNat n) else none

/- The character whose number hexadecimal digits make up. -/
def charOfHex? (digits : Text) : Option Char :=
  (hexNumber? digits).bind charOfNat?

end SourceDocs
