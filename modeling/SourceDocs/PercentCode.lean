import SourceDocs.Text.HexDigits
import SourceDocs.Text.Octets

/-
  Percent codes: octets written as `%` and two hexadecimal
  digits.

  Key definitions include:
    * `SourceDocs.PercentCode.tokens`
    * `SourceDocs.PercentCode.decode`

  A run of codes is read as UTF-8, with U+FFFD for what is
  none. Each other character stands for itself, also a `%`
  without two digits behind it; as no octet of a character
  can complete a run before it, runs are read one by one.
-/

------------------------------------------------------------
-- Tokens
------------------------------------------------------------

namespace SourceDocs

namespace PercentCode

/- A character that stands for itself, or a coded octet. -/
inductive Token where
  | plain (c : Char)
  | octet (b : UInt8)

/- The octet whose code follows a `%`. -/
def octet? (high low : Char) : Option UInt8 :=
  match hexValue? high, hexValue? low with
  | some h, some l => some (UInt8.ofNat (h * 16 + l))
  | _, _ => none

/-
  The tokens of a text whose first `skip` characters belong
  to a code before it.
-/
def tokens (skip : Nat) : Text → List Token
| [] => []
| c :: cs =>
  match skip with
  | skip + 1 => tokens skip cs
  | 0 =>
    match c, cs with
    | '%', high :: low :: _ =>
      match octet? high low with
      | some b => .octet b :: tokens 2 cs
      | none => .plain '%' :: tokens 0 cs
    | _, _ => .plain c :: tokens 0 cs

------------------------------------------------------------
-- Decoding
------------------------------------------------------------

/- The text of tokens, with the open run of octets before. -/
def decodeFrom (run : Octets) : List Token → Text
| [] => Octets.decodeLossy run
| .octet b :: ts => decodeFrom (run ++ [b]) ts
| .plain c :: ts =>
  Octets.decodeLossy run ++ c :: decodeFrom [] ts

/- The text that percent codes stand for. -/
def decode (t : Text) : Text :=
  decodeFrom [] (tokens 0 t)

end PercentCode

end SourceDocs
