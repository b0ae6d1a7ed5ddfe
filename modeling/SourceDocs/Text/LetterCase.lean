import SourceDocs.Text.Basic
import SourceDocs.Text.CaseTable

/-
  Lower case, and equality of characters up to case.

  Key definitions include:
    * `SourceDocs.Text.toLower`
    * `SourceDocs.foldCase`
    * `SourceDocs.caseVariants`

  Lower case follows Unicode's full mapping: a capital I
  with a dot becomes two characters, and a capital sigma is
  written in its final form at the end of a word.
-/

------------------------------------------------------------
-- Lower Case
------------------------------------------------------------

namespace SourceDocs

/- Looks a character up in a table of shifts. -/
def shiftedBy
    (shifts : List CaseShift)
    (c : Char) : Char :=
  match shifts.findSome? (·.image? c.toNat) with
  | some n => Char.ofNat n
  | none => c

/- The lower case of a character that has a single one. -/
def lowerChar (c : Char) : Char :=
  if isAscii c then
    if isAsciiUpper c then Char.ofNat (c.toNat + 32) else c
  else
    shiftedBy CaseTable.lowerShifts c

/- Whether a character has a case. -/
def isCased (c : Char) : Bool :=
  isUpper c || isLower c || Category.titleLetter.contains c

/- Punctuation that a word may hold between two letters. -/
def wordPunctuation : List CharRange :=
  [⟨0x27, 0x27, 1⟩, ⟨0x2E, 0x2E, 1⟩, ⟨0x3A, 0x3A, 1⟩,
   ⟨0xB7, 0xB7, 1⟩, ⟨0x387, 0x387, 1⟩, ⟨0x55F, 0x55F, 1⟩,
   ⟨0x5F4, 0x5F4, 1⟩, ⟨0x2018, 0x2019, 1⟩,
   ⟨0x2024, 0x2024, 1⟩, ⟨0x2027, 0x2027, 1⟩,
   ⟨0xFE13, 0xFE13, 1⟩, ⟨0xFE52, 0xFE52, 1⟩,
   ⟨0xFE55, 0xFE55, 1⟩, ⟨0xFF07, 0xFF07, 1⟩,
   ⟨0xFF0E, 0xFF0E, 1⟩, ⟨0xFF1A, 0xFF1A, 1⟩]

/- Whether the end of a word is looked for beyond this. -/
def isCaseIgnorable (c : Char) : Bool :=
  Category.anyContains
      [.nonspacingMark, .enclosingMark, .format,
       .modifierLetter, .modifierSymbol] c ||
    CharRange.anyContains wordPunctuation c

/- Whether a cased character comes first, ignorables aside. -/
def startsCased (t : Text) : Bool :=
  match t.dropWhile isCaseIgnorable with
  | [] => false
  | c :: _ => isCased c

/-
  The lower case of one character, between the text before
  it, nearest first, and the text after it.
-/
def lowerIn
    (before : Text)
    (c : Char)
    (after : Text) : Text :=
  if c = 'Σ' then
    if startsCased before && !startsCased after then ['ς']
    else ['σ']
  else if c = 'İ' then
    ['i', Char.ofNat 0x307]
  else
    [lowerChar c]

namespace Text

/- The lower case of a text with another text before it. -/
def toLowerFrom (before : Text) : Text → Text
| [] => []
| c :: cs => lowerIn before c cs ++ toLowerFrom (c :: before) cs

/- The lower case of a text. -/
def toLower (t : Text) : Text :=
  toLowerFrom [] t

end Text

------------------------------------------------------------
-- Equality Up To Case
------------------------------------------------------------

/- The character that stands for all its case variants. -/
def foldCase (c : Char) : Char :=
  shiftedBy CaseTable.foldShifts c

/- All characters that differ from one in case only. -/
def caseVariants (c : Char) : List Char :=
  let folded := foldCase c
  folded ::
    (CaseTable.foldShifts.filterMap
      (·.origin? folded.toNat)).map Char.ofNat

end SourceDocs
