import SourceDocs.Text.Basic

/-
  Declarations found in C# source files.

  Key definitions include:
    * `SourceDocs.SourceFile`
    * `SourceDocs.TypeDeclaration`
    * `SourceDocs.Members`
    * `SourceDocs.Method`
    * `SourceDocs.Property`
    * `SourceDocs.CallEdge`
    * `SourceDocs.keptLine`
-/

------------------------------------------------------------
-- Keywords
------------------------------------------------------------

namespace SourceDocs

/- Who may use a declaration. -/
inductive Access where
  | assembly
  | owner
  | heirs
  | everyone
  deriving DecidableEq, Repr

namespace Access

/- The keyword of an access level. -/
def keyword : Access → Text
| .assembly => "internal".toList
| .owner => "private".toList
| .heirs => "protected".toList
| .everyone => "public".toList

/- The access keywords. -/
def keywords : List Text :=
  [keyword .everyone, keyword .heirs, keyword .owner,
   keyword .assembly]

/- The level of a keyword; any other word is the owner's. -/
def ofKeyword (word : Text) : Access :=
  if word = keyword .assembly then .assembly
  else if word = keyword .heirs then .heirs
  else if word = keyword .everyone then .everyone
  else .owner

end Access

/- What kind of type is declared. -/
inductive TypeKind where
  | classType
  | enumType
  | interfaceType
  | recordType
  deriving DecidableEq, Repr

namespace TypeKind

/- The keyword of a kind. -/
def keyword : TypeKind → Text
| .classType => "class".toList
| .enumType => "enum".toList
| .interfaceType => "interface".toList
| .recordType => "record".toList

/- The keywords of the kinds that are looked for. -/
def keywords : List Text :=
  [keyword .classType, keyword .enumType,
   keyword .interfaceType, keyword .recordType]

/- All words in front of the name of a declared type. -/
def reserved : List Text :=
  keywords ++ ["struct".toList]

/- The kind of a keyword; what is none counts as a class. -/
def ofKeyword (word : Text) : TypeKind :=
  if word = keyword .enumType then .enumType
  else if word = keyword .interfaceType then .interfaceType
  else if word = keyword .recordType then .recordType
  else .classType

end TypeKind

------------------------------------------------------------
-- Lines
------------------------------------------------------------

/- The last number of a line: numbers are kept in 32 bits. -/
def lastLine : Nat :=
  4294967295

/-
  The number of a line as it is kept. Lines behind the last
  one that has a number are given that number too.
-/
def keptLine (line : Nat) : Nat :=
  min line lastLine

/- It makes no difference whether each part is kept so. -/
theorem keptLine_add (line count : Nat) :
    keptLine (keptLine line + keptLine count) =
      keptLine (line + count) := by
  unfold keptLine
  omega

------------------------------------------------------------
-- Calls
------------------------------------------------------------

/- How a call is written. -/
inductive CallKind where
  /- A method of a member: `a.b.Method(`. -/
  | chain
  /- A new object: `new Type(`. -/
  | creation
  /- A method of an object: `a.Method(`. -/
  | direct
  deriving DecidableEq, Repr

/-
  A call in the body of a method: what is called, on what,
  and both of them joined by a dot.
-/
structure CallEdge where
  kind : CallKind
  target : Text
  receiver : Option Text
  chainKey : Option Text
  deriving DecidableEq, Repr

------------------------------------------------------------
-- Members
------------------------------------------------------------

/- A parameter; one without a blank has an empty name. -/
structure Parameter where
  type : Text
  name : Text
  deriving DecidableEq, Repr

/- A method, its body and the calls in it. -/
structure Method where
  access : Access
  isAsync : Bool
  returnType : Text
  name : Text
  parameters : List Parameter
  signature : Text
  body : Text
  calls : List CallEdge
  line : Nat
  deriving DecidableEq, Repr

/- A property or a field. -/
structure Property where
  access : Access
  type : Text
  name : Text
  line : Nat
  deriving DecidableEq, Repr

/- The members in the body of a type. -/
structure Members where
  methods : List Method
  properties : List Property
  deriving DecidableEq, Repr

/- No members. -/
def Members.none : Members :=
  ⟨[], []⟩

------------------------------------------------------------
-- Types And Files
------------------------------------------------------------

/- A type with its bases and its members. -/
structure TypeDeclaration where
  access : Access
  modifiers : List Text
  kind : TypeKind
  name : Text
  baseType : Option Text
  interfaces : List Text
  line : Nat
  members : Members
  deriving DecidableEq, Repr

/- What a file declares, and the namespace it starts with. -/
structure SourceFile where
  path : Text
  scope : Option Text
  types : List TypeDeclaration
  deriving DecidableEq, Repr

end SourceDocs
