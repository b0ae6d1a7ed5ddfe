import SourceDocs.Text.Basic

/-
  Texts as octets in UTF-8.

  Key definitions include:
    * `SourceDocs.Octets.decode?`
    * `SourceDocs.Octets.decodeLossy`
    * `SourceDocs.Text.toOctets`

  Octets that are no UTF-8 are replaced by U+FFFD: one such
  character stands for the longest run that could have
  started a character, or else for a single octet.
-/

------------------------------------------------------------
-- One Character
------------------------------------------------------------

namespace SourceDocs

/- Octets: values of one byte each. -/
abbrev Octets := List UInt8

namespace Octets

/- Octets that continue a character. -/
def isTail (b : UInt8) : Bool :=
  0x80 ≤ b && b ≤ 0xBF

/-
  Whether `b` may follow `a`, the first octet of a character
  of three octets.
-/
def isSecondOfThree (a b : UInt8) : Bool :=
  if a = 0xE0 then 0xA0 ≤ b && b ≤ 0xBF
  else if a = 0xED then 0x80 ≤ b && b ≤ 0x9F
  else isTail b

/-
  Whether `b` may follow `a`, the first octet of a character
  of four octets.
-/
def isSecondOfFour (a b : UInt8) : Bool :=
  if a = 0xF0 then 0x90 ≤ b && b ≤ 0xBF
  else if a = 0xF4 then 0x80 ≤ b && b ≤ 0x8F
  else isTail b

/- The six bits that a tail octet carries. -/
def tailBits (b : UInt8) : Nat :=
  b.toNat - 0x80

/- What stands at the front of octets. -/
inductive Front where
  /- A character and how many octets it takes. -/
  | char (c : Char) (size : Nat)
  /- So many octets that start no character. -/
  | broken (size : Nat)

/- How many octets of the front are read. -/
def Front.size : Front → Nat
| .char _ size => size
| .broken size => size

/- Reads the front of octets that start with `a`. -/
def front
    (a : UInt8)
    (rest : Octets) : Front :=
  if a < 0x80 then
    .char (Char.ofNat a.toNat) 1
  else if 0xC2 ≤ a && a ≤ 0xDF then
    match rest with
    | b :: _ =>
      if isTail b then
        .char
          (Char.ofNat ((a.toNat - 0xC0) * 64 + tailBits b)) 2
      else .broken 1
    | [] => .broken 1
  else if 0xE0 ≤ a && a ≤ 0xEF then
    match rest with
    | b :: c :: _ =>
      if !isSecondOfThree a b then .broken 1
      else if !isTail c then .broken 2
      else
        .char
          (Char.ofNat (((a.toNat - 0xE0) * 64 + tailBits b) *
            64 + tailBits c)) 3
    | [b] => if isSecondOfThree a b then .broken 2 else .broken 1
    | [] => .broken 1
  else if 0xF0 ≤ a && a ≤ 0xF4 then
    match rest with
    | b :: c :: d :: _ =>
      if !isSecondOfFour a b then .broken 1
      else if !isTail c then .broken 2
      else if !isTail d then .broken 3
      else
        .char
          (Char.ofNat ((((a.toNat - 0xF0) * 64 + tailBits b) *
            64 + tailBits c) * 64 + tailBits d)) 4
    | [b, c] =>
      if !isSecondOfFour a b then .broken 1
      else if isTail c then .broken 3
      else .broken 2
    | [b] => if isSecondOfFour a b then .broken 2 else .broken 1
    | [] => .broken 1
  else
    .broken 1

------------------------------------------------------------
-- Decoding
------------------------------------------------------------

/-
  The fronts of octets one after another, the first `skip`
  octets left out.
-/
def fronts (skip : Nat) : Octets → List Front
| [] => []
| a :: rest =>
  match skip with
  | skip + 1 => fronts skip rest
  | 0 =>
    let here := front a rest
    here :: fronts (here.size - 1) rest

/- The text that octets encode, if they are UTF-8. -/
def decode? (octets : Octets) : Option Text :=
  (fronts 0 octets).mapM fun
    | .char c _ => some c
    | .broken _ => none

/- The text that octets encode, with U+FFFD for the rest. -/
def decodeLossy (octets : Octets) : Text :=
  (fronts 0 octets).map fun
    | .char c _ => c
    | .broken _ => Char.ofNat 0xFFFD

end Octets

namespace Text

/- The octets of a text. -/
def toOctets (t : Text) : Octets :=
  t.flatMap String.utf8EncodeChar

end Text

end SourceDocs
