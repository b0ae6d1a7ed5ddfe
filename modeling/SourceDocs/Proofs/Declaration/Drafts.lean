import SourceDocs.Declaration.Extraction
import SourceDocs.Proofs.Text.Words

/-
  Declarations as they are written down.

  A draft says what a type declares and gives the lines that
  declare it: one for a header, one for a property, one for
  a signature, and one for each brace of a block. What a
  draft may not hold, its type excludes: a name is no
  keyword, and no two properties of a type share one.

  Key definitions include:
    * `SourceDocs.Identifier`
    * `SourceDocs.PropertyDraft`
    * `SourceDocs.MethodDraft`
    * `SourceDocs.TypeDraft`
    * `SourceDocs.TypeDraft.lines`
    * `SourceDocs.TypeDraft.declared`
-/

------------------------------------------------------------
-- Names
------------------------------------------------------------

namespace SourceDocs

/-
  The words that make up headers, besides names. All of them
  are keywords of the language.
-/
def headWords : List Text :=
  "namespace".toList ::
    (Access.keywords ++ TypeKind.reserved ++
      TypeHeader.modifierWords ++ MethodHeader.modifierWords ++
      PropertyHeader.modifierWords)

/- An ASCII name. A digit in front would do no harm. -/
structure Identifier where
  text : Text
  ne_nil : text ≠ []
  ascii : ∀ c ∈ text, isAsciiWord c = true
  free : text ∉ headWords

/- A modifier of a type. -/
abbrev TypeModifier :=
  { word : Text // word ∈ TypeHeader.modifierWords }

/- The name of a base type. -/
abbrev BaseName :=
  { name : Identifier //
    BaseList.isInterfaceName name.text = false }

/- The name of an interface. -/
abbrev InterfaceName :=
  { name : Identifier //
    BaseList.isInterfaceName name.text = true }

------------------------------------------------------------
-- Members
------------------------------------------------------------

/- A property whose name starts with a capital. -/
structure PropertyDraft where
  access : Access
  type : Identifier
  name : Identifier
  capital : name.text.head?.any isAsciiUpper = true

namespace PropertyDraft

/- The line of a property. -/
def line (d : PropertyDraft) : Text :=
  d.access.keyword ++ Text.spaced [d.type.text, d.name.text] ++
    " \x7b get; set; \x7d".toList

/- The property that a line declares. -/
def declared
    (d : PropertyDraft)
    (line : Nat) : Property :=
  ⟨d.access, d.type.text, d.name.text, line⟩

end PropertyDraft

/- A method. -/
structure MethodDraft where
  access : Access
  isAsync : Bool
  returnType : Identifier
  name : Identifier
  parameters : List (Identifier × Identifier)

namespace MethodDraft

/- The words between access and type. -/
def modifiers (d : MethodDraft) : List Text :=
  if d.isAsync then ["async".toList] else []

/- The list between the parentheses. -/
def parameterText (d : MethodDraft) : Text :=
  Text.join ", ".toList
    (d.parameters.map fun (type, name) =>
      type.text ++ ' ' :: name.text)

/- The line of the signature. -/
def signature (d : MethodDraft) : Text :=
  d.access.keyword ++
    Text.spaced
      (d.modifiers ++ [d.returnType.text, d.name.text]) ++
    '(' :: d.parameterText ++ [')']

/- The lines of a method without statements. -/
def lines (d : MethodDraft) : List Text :=
  [d.signature, ['\x7b'], ['\x7d']]

/- The method that such lines declare. -/
def declared
    (d : MethodDraft)
    (line : Nat) : Method where
  access := d.access
  isAsync := d.isAsync
  returnType := d.returnType.text
  name := d.name.text
  parameters :=
    d.parameters.map fun (type, name) =>
      ⟨type.text, name.text⟩
  signature :=
    Method.signatureOf d.returnType.text d.name.text
      d.parameterText
  body := ['\n']
  calls := []
  line

end MethodDraft

/- A member of a type. -/
inductive MemberDraft where
  | property (d : PropertyDraft)
  | method (d : MethodDraft)

namespace MemberDraft

/- The lines of a member. -/
def lines : MemberDraft → List Text
| .property d => [d.line]
| .method d => d.lines

/- The name of a member, if it is a property. -/
def propertyName? : MemberDraft → Option Text
| .property d => some d.name.text
| .method _ => none

/- The properties among members that start on line `line`. -/
def propertiesFrom
    (line : Nat) : List MemberDraft → List Property
| [] => []
| .property d :: ds =>
  d.declared line :: propertiesFrom (line + 1) ds
| .method _ :: ds => propertiesFrom (line + 3) ds

/- The methods among them. -/
def methodsFrom
    (line : Nat) : List MemberDraft → List Method
| [] => []
| .property _ :: ds => methodsFrom (line + 1) ds
| .method d :: ds =>
  d.declared line :: methodsFrom (line + 3) ds

end MemberDraft

------------------------------------------------------------
-- Types
------------------------------------------------------------

/- A type, with members in any order. -/
structure TypeDraft where
  access : Access
  modifiers : List TypeModifier
  kind : TypeKind
  name : Identifier
  base : Option BaseName
  interfaces : List InterfaceName
  members : List MemberDraft
  distinct : (members.filterMap MemberDraft.propertyName?).Nodup

namespace TypeDraft

/- The words of the header behind the access keyword. -/
def words (d : TypeDraft) : List Text :=
  d.modifiers.map Subtype.val ++ [d.kind.keyword, d.name.text]

/- The names behind the colon. -/
def bases (d : TypeDraft) : List Text :=
  (d.base.map fun name => name.val.text).toList ++
    d.interfaces.map fun name => name.val.text

/- The colon and the names; nothing, if there are none. -/
def baseText (d : TypeDraft) : Text :=
  if d.bases = [] then []
  else " : ".toList ++ Text.join ", ".toList d.bases

/- The line of the header. -/
def header (d : TypeDraft) : Text :=
  d.access.keyword ++ Text.spaced d.words ++ d.baseText

/- The lines of a type. -/
def lines (d : TypeDraft) : List Text :=
  [d.header, ['\x7b']] ++ d.members.flatMap MemberDraft.lines ++
    [['\x7d']]

/- The type that such lines declare, from line `line` on. -/
def declared
    (d : TypeDraft)
    (line : Nat) : TypeDeclaration where
  access := d.access
  modifiers := d.modifiers.map Subtype.val
  kind := d.kind
  name := d.name.text
  baseType := d.base.map fun name => name.val.text
  interfaces := d.interfaces.map fun name => name.val.text
  line
  members :=
    ⟨MemberDraft.methodsFrom (line + 2) d.members,
      MemberDraft.propertiesFrom (line + 2) d.members⟩

/- The types that start on line `line`, one after another. -/
def declaredFrom
    (line : Nat) : List TypeDraft → List TypeDeclaration
| [] => []
| d :: ds =>
  d.declared line :: declaredFrom (line + d.lines.length) ds

/- The text of types. -/
def render (ds : List TypeDraft) : Text :=
  Text.ofLines (ds.flatMap lines)

example :
    render
        [{ access := .everyone
           modifiers := [⟨"sealed".toList, by decide⟩]
           kind := .classType
           name := ⟨"Order".toList, by decide, by decide, by decide⟩
           base :=
             some
               ⟨⟨"Entity".toList, by decide, by decide,
                 by decide⟩, by decide⟩
           interfaces := []
           members :=
             [.property
               { access := .everyone
                 type :=
                   ⟨"int".toList, by decide, by decide,
                     by decide⟩
                 name :=
                   ⟨"Total".toList, by decide, by decide,
                     by decide⟩
                 capital := by decide }]
           distinct := by decide }] =
      ("public sealed class Order : Entity\n\x7b\n" ++
        "public int Total \x7b get; set; \x7d\n\x7d\n").toList := by
  decide

end TypeDraft

------------------------------------------------------------
-- Words Of Headers
------------------------------------------------------------

/- A text that is one word. -/
structure IsOneWord (w : Text) : Prop where
  ne_nil : w ≠ []
  word : ∀ c ∈ w, isWord c = true

namespace IsOneWord

variable {w : Text}

theorem blank
    (hw : IsOneWord w) : ∀ c ∈ w, isBlank c = false :=
  fun c hc => isBlank_of_isWord (hw.word c hc)

theorem words_eq (hw : IsOneWord w) : Text.words w = [w] :=
  Text.words_of_not_blank hw.ne_nil hw.blank

/- No sign stands in a word. -/
theorem not_mem
    (hw : IsOneWord w)
    {c : Char}
    (hc : isWord c = false) : c ∉ w := by
  intro hMem
  rw [hw.word c hMem] at hc
  cases hc

end IsOneWord

theorem Identifier.isOneWord
    (name : Identifier) : IsOneWord name.text :=
  ⟨name.ne_nil, fun c hc =>
    isWord_of_isAsciiWord (name.ascii c hc)⟩

theorem isOneWord_of_all
    {w : Text}
    (h : (!w.isEmpty && w.all isWord) = true) :
    IsOneWord w := by
  simp only [Bool.and_eq_true, Bool.not_eq_true',
    List.isEmpty_eq_false_iff, List.all_eq_true] at h
  exact ⟨h.1, h.2⟩

/- All words of headers are words. -/
theorem isOneWord_of_mem_headWords
    {w : Text}
    (hw : w ∈ headWords) : IsOneWord w := by
  have hAll :
      ∀ v ∈ headWords, (!v.isEmpty && v.all isWord) = true := by
    decide
  exact isOneWord_of_all (hAll w hw)

theorem Access.keyword_mem (a : Access) :
    a.keyword ∈ Access.keywords := by
  cases a <;> decide

theorem Access.ofKeyword_keyword (a : Access) :
    Access.ofKeyword a.keyword = a := by
  cases a <;> decide

theorem TypeKind.keyword_mem (kind : TypeKind) :
    kind.keyword ∈ TypeKind.keywords := by
  cases kind <;> decide

theorem TypeKind.ofKeyword_keyword (kind : TypeKind) :
    TypeKind.ofKeyword kind.keyword = kind := by
  cases kind <;> decide

/- Keywords of all sorts are among the words of headers. -/
theorem mem_headWords_of_mem
    {w : Text}
    (hw :
      w ∈ Access.keywords ∨ w ∈ TypeKind.reserved ∨
        w ∈ TypeHeader.modifierWords ∨
        w ∈ MethodHeader.modifierWords ∨
        w ∈ PropertyHeader.modifierWords) :
    w ∈ headWords := by
  apply List.mem_cons_of_mem
  simp only [List.mem_append, or_assoc]
  exact hw

theorem Access.isOneWord_of_mem
    {w : Text}
    (hw : w ∈ keywords) : IsOneWord w :=
  isOneWord_of_mem_headWords (mem_headWords_of_mem (Or.inl hw))

theorem Access.isOneWord (a : Access) : IsOneWord a.keyword :=
  isOneWord_of_mem a.keyword_mem

theorem TypeKind.isOneWord_of_mem
    {w : Text}
    (hw : w ∈ reserved) : IsOneWord w :=
  isOneWord_of_mem_headWords
    (mem_headWords_of_mem (Or.inr (Or.inl hw)))

theorem TypeKind.isOneWord (kind : TypeKind) :
    IsOneWord kind.keyword :=
  isOneWord_of_mem (List.mem_append_left _ kind.keyword_mem)

theorem TypeModifier.isOneWord (m : TypeModifier) :
    IsOneWord m.val :=
  isOneWord_of_mem_headWords
    (mem_headWords_of_mem (Or.inr (Or.inr (Or.inl m.property))))

end SourceDocs
