import SourceDocs.Declaration.Basic
import SourceDocs.Text.Occurrence

/-
  The text in front of the bodies of declarations.

  Every declaration starts with an access keyword. Behind it
  stands a stretch of words and blanks, in members also with
  the signs that types are written with; what the stretch
  declares shows from its words.

  Key definitions include:
    * `SourceDocs.NamespaceName.reader`
    * `SourceDocs.TypeHeader.reader`
    * `SourceDocs.MemberHead`
    * `SourceDocs.MethodHeader.reader`
    * `SourceDocs.PropertyHeader.reader`
-/

------------------------------------------------------------
-- Keywords
------------------------------------------------------------

namespace SourceDocs

/- The first of some keywords that a text starts with. -/
def leadingKeyword?
    (keywords : List Text)
    (t : Text) : Option (Text × Text) :=
  keywords.findSome? fun word =>
    (Text.after? word t).map fun rest => (word, rest)

/- The access keyword at the start of a word, and the rest. -/
def leadingAccess?
    (before : Option Char)
    (t : Text) : Option (Text × Text) :=
  if atWordStart before then
    leadingKeyword? Access.keywords t
  else none

/- Whether a text starts with a blank. -/
def startsBlank : Text → Bool
| c :: _ => isBlank c
| [] => false

------------------------------------------------------------
-- Namespaces
------------------------------------------------------------

namespace NamespaceName

/- Characters of the name of a namespace. -/
def isNameChar (c : Char) : Bool :=
  isWord c || c == '.'

/- Reads the declaration of a namespace. -/
def reader : Reader Text :=
  fun before t => do
    let word := "namespace".toList
    let rest ← Text.after? word t
    let (blanks, rest) ← Text.run? isBlank rest
    let (name, _) ← Text.run? isNameChar rest
    if atWordStart before then
      some (name, word ++ blanks ++ name)
    else none

end NamespaceName

------------------------------------------------------------
-- Types
------------------------------------------------------------

/- What stands before the body of a type. -/
structure TypeHeader where
  access : Access
  modifiers : List Text
  kind : TypeKind
  name : Text
  bases : Text
  deriving DecidableEq, Repr

namespace TypeHeader

/- The words that may stand between access and kind. -/
def modifierWords : List Text :=
  ["static".toList, "abstract".toList, "sealed".toList,
   "partial".toList, "readonly".toList]

/-
  The modifiers, the kind and the name that words in front
  of a type's body give, if they give one.
-/
def ofWords? (words : List Text) :
    Option (List Text × TypeKind × Text) :=
  match words.reverse with
  | name :: kind :: modifiers =>
    if TypeKind.keywords.contains kind &&
        modifiers.all modifierWords.contains then
      some (modifiers.reverse, TypeKind.ofKeyword kind, name)
    else none
  | _ => none

/-
  Behind how many characters type parameters are closed,
  where `seen` are counted already and `inner` tells that a
  bracket is open besides. They may hold one more layer of
  brackets, but no brace.
-/
def closeParameters?
    (inner : Bool)
    (seen : Nat) : Text → Option Nat
| [] => none
| c :: cs =>
  if c = '>' then
    if inner then closeParameters? false (seen + 1) cs
    else some (seen + 1)
  else if c = '<' then
    if inner then none
    else closeParameters? true (seen + 1) cs
  else if c = '\x7b' then none
  else closeParameters? inner (seen + 1) cs

/- Type parameters at the front of a text, and the rest. -/
def skipParameters? : Text → Option (Text × Text)
| '<' :: t =>
  (closeParameters? false 0 t).map fun n =>
    ('<' :: t.take n, t.drop n)
| t => some ([], t)

/- A list in parentheses at the front, and the rest. -/
def skipParentheses? : Text → Option (Text × Text)
| '(' :: t =>
  match t.dropWhile (· ≠ ')') with
  | ')' :: rest =>
    some ('(' :: t.takeWhile (· ≠ ')') ++ [')'], rest)
  | _ => none
| t => some ([], t)

/- Whether a list of bases goes on with a character. -/
def isBaseChar (c : Char) : Bool :=
  c != '\x7b' && c != ';'

/- The list of bases behind a colon, and the rest. -/
def skipBases? : Text → Option (Text × Text × Text)
| ':' :: t =>
  (Text.run? isBaseChar t).map fun (bases, rest) =>
    (':' :: bases, Text.trim bases, rest)
| t => some ([], [], t)

/- Reads all that stands before the body of a type. -/
def reader : Reader TypeHeader :=
  fun before t => do
    let (access, t) ← leadingAccess? before t
    let (stretch, t) :=
      Text.run (fun c => isWord c || isBlank c) t
    let (modifiers, kind, name) ← ofWords? (Text.words stretch)
    let (parameters, t) ← skipParameters? t
    let (blanks, t) := Text.run isBlank t
    let (fields, t) ← skipParentheses? t
    let (gap, t) := Text.run isBlank t
    let (list, bases, t) ← skipBases? t
    let _ ← Text.after? ['\x7b'] t
    if startsBlank stretch then
      some
        (⟨Access.ofKeyword access, modifiers, kind, name, bases⟩,
          access ++ stretch ++ parameters ++ blanks ++ fields ++
            gap ++ list ++ ['\x7b'])
    else none

end TypeHeader

------------------------------------------------------------
-- Members
------------------------------------------------------------

/-
  What the stretch behind an access keyword declares: some
  modifiers, a type and a name.
-/
structure MemberHead where
  modifiers : List Text
  type : Text
  name : Text
  deriving DecidableEq, Repr

namespace MemberHead

/- Characters that types and names are written with. -/
def isTypeChar (c : Char) : Bool :=
  isWord c || isBlank c || c == '<' || c == '>' || c == '[' ||
    c == ']' || c == ',' || c == '?'

/- A text without its first words, and blanks around them. -/
def dropWords : Nat → Text → Text
| 0, t => Text.trimStart t
| n + 1, t =>
  dropWords n ((Text.trimStart t).dropWhile (!isBlank ·))

/-
  The modifiers and the type that stand before a name. If
  all words are modifiers, three blanks behind them count as
  a type that is empty; with fewer, the last word is the
  type.
-/
def typeOf?
    (modifierWords : List Text)
    (front : Text) : Option (List Text × Text) :=
  let words := Text.words front
  let modifiers := words.takeWhile modifierWords.contains
  if modifiers.length < words.length then
    some
      (modifiers, Text.trim (dropWords modifiers.length front))
  else if (front.reverse.takeWhile isBlank).length ≥ 3 then
    some (modifiers, [])
  else
    words.getLast?.map fun type => (modifiers.dropLast, type)

/- The declaration in a stretch behind an access keyword. -/
def ofStretch?
    (modifierWords : List Text)
    (stretch : Text) : Option MemberHead :=
  let declared := Text.trimEnd stretch
  let name := (declared.reverse.takeWhile (!isBlank ·)).reverse
  let front := declared.take (declared.length - name.length)
  if startsBlank stretch && !name.isEmpty && name.all isWord then
    (typeOf? modifierWords front).map fun (modifiers, type) =>
      ⟨modifiers, type, name⟩
  else none

end MemberHead

------------------------------------------------------------
-- Methods
------------------------------------------------------------

/- What stands before the body of a method. -/
structure MethodHeader where
  access : Access
  head : MemberHead
  parameters : Text
  deriving DecidableEq, Repr

namespace MethodHeader

/- The words that may stand between access and type. -/
def modifierWords : List Text :=
  ["static".toList, "async".toList, "virtual".toList,
   "override".toList, "sealed".toList, "new".toList,
   "abstract".toList, "extern".toList, "unsafe".toList,
   "partial".toList]

/- Reads the signature of a method. -/
def reader : Reader MethodHeader :=
  fun before t => do
    let (access, t) ← leadingAccess? before t
    let (stretch, t) := Text.run MemberHead.isTypeChar t
    let t ← Text.after? ['('] t
    let (parameters, t) := Text.run (· != ')') t
    let _ ← Text.after? [')'] t
    let head ← MemberHead.ofStretch? modifierWords stretch
    some
      (⟨Access.ofKeyword access, head, parameters⟩,
        access ++ stretch ++ ['('] ++ parameters ++ [')'])

end MethodHeader

------------------------------------------------------------
-- Properties
------------------------------------------------------------

/- What stands before the body or value of a property. -/
structure PropertyHeader where
  access : Access
  head : MemberHead
  deriving DecidableEq, Repr

namespace PropertyHeader

/- The words that may stand between access and type. -/
def modifierWords : List Text :=
  ["static".toList, "readonly".toList, "virtual".toList,
   "override".toList, "abstract".toList, "required".toList,
   "const".toList, "new".toList, "sealed".toList]

/- What follows the name of a property or field. -/
def isTerminator (c : Char) : Bool :=
  c == '\x7b' || c == '=' || c == ';'

/- Reads the declaration of a property or a field. -/
def reader : Reader PropertyHeader :=
  fun before t => do
    let (access, t) ← leadingAccess? before t
    let (stretch, t) := Text.run MemberHead.isTypeChar t
    let terminator ← t.head?.filter isTerminator
    let head ← MemberHead.ofStretch? modifierWords stretch
    some
      (⟨Access.ofKeyword access, head⟩,
        access ++ stretch ++ [terminator])

end PropertyHeader

end SourceDocs
