import SourceDocs.Text.Category
import SourceDocs.Text.MarkTable

/-
  The classes of characters that the text formats speak of:
  blanks, word characters, digits, capitals and small
  letters, each over all of Unicode.

  Key definitions include:
    * `SourceDocs.isBlank`
    * `SourceDocs.isWord`
    * `SourceDocs.isDecimalDigit`
    * `SourceDocs.isUpper`
    * `SourceDocs.isLower`
    * `SourceDocs.isAlphabetic`
    * `SourceDocs.isAlphanumeric`

  ASCII characters are answered without a look at the
  tables.
-/

------------------------------------------------------------
-- Blanks
------------------------------------------------------------

namespace SourceDocs

/- White space, as Unicode's property of that name has it. -/
def isBlank (c : Char) : Bool :=
  let n := c.toNat
  (9 ≤ n && n ≤ 13) || n == 0x20 || n == 0x85 ||
    n == 0xA0 || n == 0x1680 ||
    (0x2000 ≤ n && n ≤ 0x200A) || n == 0x2028 ||
    n == 0x2029 || n == 0x202F || n == 0x205F || n == 0x3000

/- A blank that does not end a line in a document. -/
def isSpaceOrTab (c : Char) : Bool :=
  c == ' ' || c == '\t'

------------------------------------------------------------
-- ASCII
------------------------------------------------------------

/- The capitals `A` to `Z`. -/
def isAsciiUpper (c : Char) : Bool :=
  'A' ≤ c && c ≤ 'Z'

/- The small letters `a` to `z`. -/
def isAsciiLower (c : Char) : Bool :=
  'a' ≤ c && c ≤ 'z'

/- The letters `A` to `Z` and `a` to `z`. -/
def isAsciiLetter (c : Char) : Bool :=
  isAsciiUpper c || isAsciiLower c

/- The digits `0` to `9`. -/
def isAsciiDigit (c : Char) : Bool :=
  '0' ≤ c && c ≤ '9'

/- Whether a character is one of the first 128. -/
def isAscii (c : Char) : Bool :=
  c.toNat < 0x80

/- The ASCII characters that words are made of. -/
def isAsciiWord (c : Char) : Bool :=
  isAsciiLetter c || isAsciiDigit c || c == '_'

------------------------------------------------------------
-- Words And Letters
------------------------------------------------------------

/- Letters in circles, which Unicode counts as symbols. -/
def circledLetters : List CharRange :=
  [⟨0x24B6, 0x24E9, 1⟩, ⟨0x1F130, 0x1F149, 1⟩,
   ⟨0x1F150, 0x1F169, 1⟩, ⟨0x1F170, 0x1F189, 1⟩]

/- Capitals that Unicode does not count as letters. -/
def otherCapitals : List CharRange :=
  [⟨0x2160, 0x216F, 1⟩, ⟨0x24B6, 0x24CF, 1⟩,
   ⟨0x1F130, 0x1F149, 1⟩, ⟨0x1F150, 0x1F169, 1⟩,
   ⟨0x1F170, 0x1F189, 1⟩]

/- Small letters outside the category of small letters. -/
def otherSmalls : List CharRange :=
  [⟨0xAA, 0xAA, 1⟩, ⟨0xBA, 0xBA, 1⟩, ⟨0x2B0, 0x2B8, 1⟩,
   ⟨0x2C0, 0x2C1, 1⟩, ⟨0x2E0, 0x2E4, 1⟩, ⟨0x345, 0x345, 1⟩,
   ⟨0x37A, 0x37A, 1⟩, ⟨0x10FC, 0x10FC, 1⟩,
   ⟨0x1D2C, 0x1D6A, 1⟩, ⟨0x1D78, 0x1D78, 1⟩,
   ⟨0x1D9B, 0x1DBF, 1⟩, ⟨0x2071, 0x2071, 1⟩,
   ⟨0x207F, 0x207F, 1⟩, ⟨0x2090, 0x209C, 1⟩,
   ⟨0x2170, 0x217F, 1⟩, ⟨0x24D0, 0x24E9, 1⟩,
   ⟨0x2C7C, 0x2C7D, 1⟩, ⟨0xA69C, 0xA69D, 1⟩,
   ⟨0xA770, 0xA770, 1⟩, ⟨0xA7F2, 0xA7F4, 1⟩,
   ⟨0xA7F8, 0xA7F9, 1⟩, ⟨0xAB5C, 0xAB5F, 1⟩,
   ⟨0xAB69, 0xAB69, 1⟩, ⟨0x10780, 0x10780, 1⟩,
   ⟨0x10783, 0x10785, 1⟩, ⟨0x10787, 0x107B0, 1⟩,
   ⟨0x107B2, 0x107BA, 1⟩, ⟨0x1E030, 0x1E06D, 1⟩]

/- The two characters that join or part their neighbours. -/
def isJoiner (c : Char) : Bool :=
  c.toNat == 0x200C || c.toNat == 0x200D

/-
  Word characters: letters, marks, decimal digits, letter
  numbers, connectors, circled letters and joiners.
-/
def isWord (c : Char) : Bool :=
  if isAscii c then
    isAsciiWord c
  else
    Category.anyContains
        (Category.letters ++ Category.marks ++
          [.decimalDigit, .letterNumber, .connector]) c ||
      CharRange.anyContains circledLetters c || isJoiner c

/- Decimal digits of every script. -/
def isDecimalDigit (c : Char) : Bool :=
  if isAscii c then
    isAsciiDigit c
  else
    Category.decimalDigit.contains c

/-
  Alphabetic characters: letters, letter numbers, circled
  letters and the marks that stand for letters.
-/
def isAlphabetic (c : Char) : Bool :=
  if isAscii c then
    isAsciiLetter c
  else
    Category.anyContains
        (Category.letters ++ [.letterNumber]) c ||
      CharRange.anyContains circledLetters c ||
      CharRange.anyContains MarkTable.letterMarks c

/- Alphabetic characters and numbers of every kind. -/
def isAlphanumeric (c : Char) : Bool :=
  isAlphabetic c || Category.anyContains Category.numbers c

/- Capital letters. -/
def isUpper (c : Char) : Bool :=
  if isAscii c then
    isAsciiUpper c
  else
    Category.upperLetter.contains c ||
      CharRange.anyContains otherCapitals c

/- Small letters. -/
def isLower (c : Char) : Bool :=
  if isAscii c then
    isAsciiLower c
  else
    Category.lowerLetter.contains c ||
      CharRange.anyContains otherSmalls c

end SourceDocs
