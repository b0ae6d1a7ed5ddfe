import SourceDocs.Text.CategoryTable

/-
  General categories of Unicode.

  Key definitions include:
    * `SourceDocs.Category`
    * `SourceDocs.Category.contains`
-/

namespace SourceDocs

/- A general category that is not a union of others. -/
inductive Category where
  | upperLetter
  | lowerLetter
  | titleLetter
  | modifierLetter
  | otherLetter
  | nonspacingMark
  | spacingMark
  | enclosingMark
  | decimalDigit
  | letterNumber
  | otherNumber
  | connector
  | dash
  | opening
  | closing
  | openingQuote
  | closingQuote
  | otherPunctuation
  | mathSymbol
  | currencySymbol
  | modifierSymbol
  | otherSymbol
  | spaceSeparator
  | lineSeparator
  | paragraphSeparator
  | control
  | format
  | privateUse
  deriving DecidableEq, Repr

namespace Category

/- Every category. -/
def all : List Category :=
  [.upperLetter, .lowerLetter, .titleLetter,
   .modifierLetter, .otherLetter, .nonspacingMark,
   .spacingMark, .enclosingMark, .decimalDigit,
   .letterNumber, .otherNumber, .connector, .dash,
   .opening, .closing, .openingQuote, .closingQuote,
   .otherPunctuation, .mathSymbol, .currencySymbol,
   .modifierSymbol, .otherSymbol, .spaceSeparator,
   .lineSeparator, .paragraphSeparator, .control, .format,
   .privateUse]

/- The code points of a category. -/
def ranges : Category → List CharRange
| .upperLetter => CategoryTable.upperLetters
| .lowerLetter => CategoryTable.lowerLetters
| .titleLetter => CategoryTable.titleLetters
| .modifierLetter => CategoryTable.modifierLetters
| .otherLetter => CategoryTable.otherLetters
| .nonspacingMark => CategoryTable.nonspacingMarks
| .spacingMark => CategoryTable.spacingMarks
| .enclosingMark => CategoryTable.enclosingMarks
| .decimalDigit => CategoryTable.decimalDigits
| .letterNumber => CategoryTable.letterNumbers
| .otherNumber => CategoryTable.otherNumbers
| .connector => CategoryTable.connectors
| .dash => CategoryTable.dashes
| .opening => CategoryTable.openings
| .closing => CategoryTable.closings
| .openingQuote => CategoryTable.openingQuotes
| .closingQuote => CategoryTable.closingQuotes
| .otherPunctuation => CategoryTable.otherPunctuation
| .mathSymbol => CategoryTable.mathSymbols
| .currencySymbol => CategoryTable.currencySymbols
| .modifierSymbol => CategoryTable.modifierSymbols
| .otherSymbol => CategoryTable.otherSymbols
| .spaceSeparator => CategoryTable.spaceSeparators
| .lineSeparator => CategoryTable.lineSeparators
| .paragraphSeparator => CategoryTable.paragraphSeparators
| .control => CategoryTable.controls
| .format => CategoryTable.formats
| .privateUse => CategoryTable.privateUse

/- Whether a character belongs to a category. -/
def contains
    (category : Category)
    (c : Char) : Bool :=
  CharRange.anyContains category.ranges c

/- The categories of letters. -/
def letters : List Category :=
  [.upperLetter, .lowerLetter, .titleLetter,
   .modifierLetter, .otherLetter]

/- The categories of marks. -/
def marks : List Category :=
  [.nonspacingMark, .spacingMark, .enclosingMark]

/- The categories of numbers. -/
def numbers : List Category :=
  [.decimalDigit, .letterNumber, .otherNumber]

/- The categories of punctuation. -/
def punctuation : List Category :=
  [.connector, .dash, .opening, .closing, .openingQuote,
   .closingQuote, .otherPunctuation]

/- The categories of symbols. -/
def symbols : List Category :=
  [.mathSymbol, .currencySymbol, .modifierSymbol,
   .otherSymbol]

/- The categories of separators. -/
def separators : List Category :=
  [.spaceSeparator, .lineSeparator, .paragraphSeparator]

/- Whether a character belongs to one of the categories. -/
def anyContains
    (categories : List Category)
    (c : Char) : Bool :=
  categories.any (·.contains c)

end Category

end SourceDocs
