import SourceDocs.Declaration.Basic
import SourceDocs.Declaration.Brackets

/-
  Lists of parameters and lists of base types.

  Key definitions include:
    * `SourceDocs.Parameter.ofText?`
    * `SourceDocs.Parameter.listOfText`
    * `SourceDocs.BaseList.ofText`
-/

------------------------------------------------------------
-- Parameters
------------------------------------------------------------

namespace SourceDocs

namespace Parameter

/-
  The parameter that a part of a list declares. A default
  value is dropped; the name stands behind the last blank.
-/
def ofText? (part : Text) : Option Parameter :=
  let declared := Text.trim (part.takeWhile (· ≠ '='))
  if declared = [] then none
  else
    match Text.cutAtLast? isBlank declared with
    | some (type, name) => some ⟨Text.trim type, Text.trim name⟩
    | none => some ⟨declared, []⟩

/- The parameters of a list. -/
def listOfText (t : Text) : List Parameter :=
  (Text.splitTopLevel t).filterMap ofText?

end Parameter

------------------------------------------------------------
-- Base Types
------------------------------------------------------------

/- The base type and the interfaces of a type. -/
structure BaseList where
  base : Option Text
  interfaces : List Text
  deriving DecidableEq, Repr

namespace BaseList

/- Whether a name is an interface's: `I` and a capital. -/
def isInterfaceName : Text → Bool
| 'I' :: c :: _ => isAsciiUpper c
| _ => false

/- The name of an entry without its type arguments. -/
def bareName (entry : Text) : Text :=
  Text.trim (entry.takeWhile (· ≠ '<'))

/- Adds an entry: the first that is no interface is the base. -/
def add
    (list : BaseList)
    (entry : Text) : BaseList :=
  if isInterfaceName (bareName entry) ∨ list.base.isSome then
    { list with interfaces := list.interfaces ++ [entry] }
  else
    { list with base := some entry }

/- The entries of a list, up to the word that constrains it. -/
def entries (t : Text) : List Text :=
  let list :=
    match Text.cutAt? " where ".toList t with
    | some (before, _) => before
    | none => t
  ((Text.splitTopLevel list).map Text.trim).filter (· ≠ [])

/- The base type and the interfaces that a list names. -/
def ofText (t : Text) : BaseList :=
  (entries t).foldl add ⟨none, []⟩

end BaseList

end SourceDocs
