import SourceDocs.Declaration.Calls
import SourceDocs.Declaration.Lists
import SourceDocs.Declaration.Signature

/-
  Extraction of the declarations in a source file.

  Headers are found wherever they stand in the text. What
  belongs to a type or a method is the block between its
  braces; where the braces do not balance there is none, and
  the type has no members.

  Key definitions include:
    * `SourceDocs.Method.all`
    * `SourceDocs.Property.all`
    * `SourceDocs.TypeDeclaration.all`
    * `SourceDocs.SourceFile.ofText`
-/

------------------------------------------------------------
-- Methods
------------------------------------------------------------

namespace SourceDocs

namespace Method

/-
  What follows the brace that opens the body of a method. A
  semicolon or an arrow before it means that there is none.
-/
def bodyStart? (before : Option Char) : Text → Option Text
| [] => none
| c :: cs =>
  if c = '\x7b' then some cs
  else if c = ';' then none
  else if c = '>' ∧ before = some '=' then none
  else bodyStart? (some c) cs

/- The body behind a signature; empty if there is none. -/
def bodyAfter (t : Text) : Text :=
  ((bodyStart? none t).bind Text.block?).getD []

/- A signature: type, name and parameters as written. -/
def signatureOf (type name parameters : Text) : Text :=
  type ++ ' ' :: name ++ '(' :: parameters ++ [')']

/-
  The method of a header, unless the header is that of a
  nested type.
-/
def ofHeader?
    (line : Nat)
    (header : Occurrence MethodHeader) : Option Method :=
  let head := header.value.head
  let parameters := Text.trim header.value.parameters
  let body := bodyAfter header.after
  if TypeKind.reserved.contains head.type then none
  else
    some
      { access := header.value.access
        isAsync := head.modifiers.contains "async".toList
        returnType := head.type
        name := head.name
        parameters := Parameter.listOfText parameters
        signature := signatureOf head.type head.name parameters
        body
        calls := CallEdge.all body
        line }

/- The methods in a body that starts on line `line`. -/
def all
    (body : Text)
    (line : Nat) : List Method :=
  ((body.cut MethodHeader.reader).numbered line).filterMap
    fun (n, header) => ofHeader? n header

end Method

------------------------------------------------------------
-- Properties
------------------------------------------------------------

namespace Property

/-
  The property of a header, unless the header is that of a
  nested type or the name starts with a small letter.
-/
def ofHeader?
    (line : Nat)
    (header : PropertyHeader) : Option Property :=
  let head := header.head
  if (Text.words head.type).any TypeKind.reserved.contains ||
      head.name.head?.any isLower then none
  else
    some
      { access := header.access
        type := head.type
        name := head.name
        line }

/-
  The properties in a body that starts on line `line`, the
  first for each name.
-/
def all
    (body : Text)
    (line : Nat) : List Property :=
  firstBy Property.name
    (((body.cut PropertyHeader.reader).numbered line).filterMap
      fun (n, header) => ofHeader? n header.value)

end Property

/- The members in a body that starts on line `line`. -/
def Members.ofBody
    (body : Text)
    (line : Nat) : Members :=
  ⟨Method.all body line, Property.all body line⟩

------------------------------------------------------------
-- Types
------------------------------------------------------------

namespace TypeDeclaration

/- The type of a header on line `line`. -/
def ofHeader
    (line : Nat)
    (header : Occurrence TypeHeader) : TypeDeclaration :=
  let found := header.value
  let bases := BaseList.ofText found.bases
  let bodyLine := line + Text.lineEnds header.covered
  { access := found.access
    modifiers := found.modifiers
    kind := found.kind
    name := found.name
    baseType := bases.base
    interfaces := bases.interfaces
    line
    members :=
      match Text.block? header.after with
      | some body => Members.ofBody body bodyLine
      | none => Members.none }

/- The types that a text declares, in order. -/
def all (t : Text) : List TypeDeclaration :=
  ((t.cut TypeHeader.reader).numbered 1).map
    fun (n, header) => ofHeader n header

end TypeDeclaration

------------------------------------------------------------
-- Files
------------------------------------------------------------

namespace SourceFile

/- What the text of a file declares. -/
def ofText
    (path t : Text) : SourceFile where
  path := Text.replaceChar '\\' '/' path
  scope :=
    (t.findFirst? NamespaceName.reader).map (·.value)
  types := TypeDeclaration.all t

end SourceFile

end SourceDocs
