import SourceDocs.Failure.Basic
import SourceDocs.Pattern.Reader

/-
  The classification of source files by their paths.

  Key definitions include:
    * `SourceDocs.Classification`
    * `SourceDocs.RuleText`
    * `SourceDocs.Rule`
    * `SourceDocs.Rule.ofTexts`
    * `SourceDocs.Classification.ofPath`

  The first rule whose pattern occurs in a path decides.
-/

------------------------------------------------------------
-- Rules
------------------------------------------------------------

namespace SourceDocs

/- The category of a file and the document it belongs in. -/
structure Classification where
  category : Text
  docFile : Option Text
  docTitle : Option Text
  deriving DecidableEq, Repr

/- A rule as the settings give it. -/
structure RuleText where
  pattern : Text
  outcome : Classification
  deriving DecidableEq, Repr

/- A rule that can be applied. -/
structure Rule where
  written : RuleText
  pattern : Pattern
  deriving DecidableEq, Repr

namespace Rule

/-
  Rules from their texts, of which the first has a number.
  The first broken pattern is reported with its number.
-/
def ofTextsFrom
    (describe : Text → Text)
    (number : Nat) :
    List RuleText → Except Failure (List Rule)
| [] => .ok []
| written :: others =>
  match Pattern.ofText? written.pattern with
  | none =>
    .error
      (.badRule number written.pattern
        (describe written.pattern))
  | some pattern => do
    let rules ← ofTextsFrom describe (number + 1) others
    return ⟨written, pattern⟩ :: rules

/- Rules from their texts. -/
def ofTexts
    (describe : Text → Text)
    (texts : List RuleText) : Except Failure (List Rule) :=
  ofTextsFrom describe 1 texts

end Rule

------------------------------------------------------------
-- Classifying
------------------------------------------------------------

namespace Classification

/- What no rule speaks of. -/
def other : Classification :=
  ⟨"other".toList, none, none⟩

/- The classification of a path, its slashes made alike. -/
def ofPath
    (rules : List Rule)
    (path : Text) : Classification :=
  let unified := Text.replaceChar '\\' '/' path
  match rules.find? (·.pattern.occursIn unified) with
  | some rule => rule.written.outcome
  | none => other

end Classification

end SourceDocs
