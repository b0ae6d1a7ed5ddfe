import SourceDocs.Pattern.CharSet

/-
  The names by which patterns call properties of characters:
  general categories, scripts and a few properties more.

  Key definitions include:
    * `SourceDocs.PropertyName.loose`
    * `SourceDocs.CharSet.ofPropertyName?`
    * `SourceDocs.CharSet.ofPropertyValue?`

  Case, blanks, hyphens, underscores and a leading `is` make
  no difference in a name.
-/

------------------------------------------------------------
-- Loose Names
------------------------------------------------------------

namespace SourceDocs

namespace PropertyName

/- A small letter for a capital of ASCII. -/
def lowerAscii (c : Char) : Char :=
  if isAsciiUpper c then CharSet.otherAsciiCase c else c

/- The characters of a name that tell it from others. -/
def significant (name : Text) : Text :=
  (name.filter fun c =>
    isAscii c && !(c == ' ' || c == '_' || c == '-')).map
    lowerAscii

/- A name without what makes no difference. -/
def loose (name : Text) : Text :=
  match name with
  | i :: s :: rest =>
    if lowerAscii i = 'i' ∧ lowerAscii s = 's' then
      if significant rest = ['c'] then "isc".toList
      else significant rest
    else significant name
  | _ => significant name

/- What the first entry with a name holds. -/
def find?
    {α : Type}
    (table : List (List String × α))
    (name : Text) : Option α :=
  (table.find? fun entry =>
    entry.1.any (·.toList == name)).map (·.2)

------------------------------------------------------------
-- Tables
------------------------------------------------------------

/- The loose names of the general categories. -/
def categories : List (List String × List Category) :=
  [(["lu", "uppercaseletter"], [.upperLetter]),
   (["ll", "lowercaseletter"], [.lowerLetter]),
   (["lt", "titlecaseletter"], [.titleLetter]),
   (["lc", "casedletter"],
     [.upperLetter, .lowerLetter, .titleLetter]),
   (["lm", "modifierletter"], [.modifierLetter]),
   (["lo", "otherletter"], [.otherLetter]),
   (["l", "letter"], Category.letters),
   (["mn", "nonspacingmark"], [.nonspacingMark]),
   (["mc", "spacingmark"], [.spacingMark]),
   (["me", "enclosingmark"], [.enclosingMark]),
   (["m", "mark", "combiningmark"], Category.marks),
   (["nd", "decimalnumber", "digit"], [.decimalDigit]),
   (["nl", "letternumber"], [.letterNumber]),
   (["no", "othernumber"], [.otherNumber]),
   (["n", "number"], Category.numbers),
   (["pc", "connectorpunctuation"], [.connector]),
   (["pd", "dashpunctuation"], [.dash]),
   (["ps", "openpunctuation"], [.opening]),
   (["pe", "closepunctuation"], [.closing]),
   (["pi", "initialpunctuation"], [.openingQuote]),
   (["pf", "finalpunctuation"], [.closingQuote]),
   (["po", "otherpunctuation"], [.otherPunctuation]),
   (["p", "punctuation", "punct"], Category.punctuation),
   (["sm", "mathsymbol"], [.mathSymbol]),
   (["sc", "currencysymbol"], [.currencySymbol]),
   (["sk", "modifiersymbol"], [.modifierSymbol]),
   (["so", "othersymbol"], [.otherSymbol]),
   (["s", "symbol"], Category.symbols),
   (["zs", "spaceseparator"], [.spaceSeparator]),
   (["zl", "lineseparator"], [.lineSeparator]),
   (["zp", "paragraphseparator"], [.paragraphSeparator]),
   (["z", "separator"], Category.separators),
   (["cc", "control", "cntrl"], [.control]),
   (["cf", "format"], [.format]),
   (["co", "privateuse"], [.privateUse])]

/- The loose names of the scripts. -/
def scripts : List (List String × Script) :=
  [(["latin", "latn"], .latin), (["greek", "grek"], .greek),
   (["cyrillic", "cyrl"], .cyrillic),
   (["armenian", "armn"], .armenian),
   (["hebrew", "hebr"], .hebrew),
   (["arabic", "arab"], .arabic),
   (["devanagari", "deva"], .devanagari),
   (["thai"], .thai), (["hangul", "hang"], .hangul),
   (["hiragana", "hira"], .hiragana),
   (["katakana", "kana"], .katakana),
   (["han", "hani"], .han)]

/- The loose names of other properties. -/
def others : List (List String × CharProperty) :=
  [(["alphabetic", "alpha"], .alphabetic),
   (["uppercase", "upper"], .upper),
   (["lowercase", "lower"], .lower),
   (["whitespace", "wspace", "space"], .blank)]

end PropertyName

------------------------------------------------------------
-- Sets
------------------------------------------------------------

namespace CharSet

open PropertyName

/- All of Unicode but the characters of a property. -/
def lacking (p : CharProperty) : CharSet :=
  complement .unicode (.property p)

/- The set that the loose name of a category stands for. -/
def ofCategory? (name : Text) : Option CharSet :=
  if name = "any".toList then some (all .unicode)
  else if name = "ascii".toList then
    some (.range (Char.ofNat 0) (Char.ofNat 0x7F))
  else if name = "assigned".toList then
    some (.property .assigned)
  else if name = "cn".toList ∨ name = "unassigned".toList then
    some (lacking .assigned)
  else if name = "c".toList ∨ name = "other".toList then
    some
      (.union (lacking .assigned)
        (.property (.anyOf [.control, .format, .privateUse])))
  else
    (find? categories name).map fun gs => .property (.anyOf gs)

/- The set that the loose name of a script stands for. -/
def ofScript? (name : Text) : Option CharSet :=
  (find? scripts name).map fun s => .property (.script s)

/- The characters with the property of a name. -/
def ofPropertyName? (name : Text) : Option CharSet :=
  let wanted := loose name
  ((find? others wanted).map CharSet.property).or
    ((ofCategory? wanted).or (ofScript? wanted))

/- The characters for which a property has a value. -/
def ofPropertyValue?
    (name value : Text) : Option CharSet :=
  let wanted := loose name
  if wanted = "generalcategory".toList ∨ wanted = "gc".toList then
    ofCategory? (loose value)
  else if wanted = "script".toList ∨ wanted = "sc".toList then
    ofScript? (loose value)
  else none

end CharSet

end SourceDocs
