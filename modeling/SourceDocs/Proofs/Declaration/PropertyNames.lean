import SourceDocs.Proofs.Declaration.FoundMembers
import SourceDocs.Proofs.Declaration.MemberHeads

/-
  The names that properties are reported by.

  The properties of a type have different names. A name that
  starts with a small letter is passed over, as that of a
  field; one that starts with neither a capital nor a small
  letter is not. So all names start with capitals just if no
  header of a property has such a name.

  Key definitions include:
    * `SourceDocs.startsUpper`

  Main results:
    * `SourceDocs.Property.isOneWord_name`
    * `SourceDocs.SourceFile.startsUpper_properties_iff`
-/

------------------------------------------------------------
-- First Letters
------------------------------------------------------------

namespace SourceDocs

/- Whether a text starts with a capital. -/
def startsUpper (t : Text) : Bool :=
  t.head?.any isUpper

------------------------------------------------------------
-- Names In A Body
------------------------------------------------------------

/- The name of a member is a word. -/
theorem MemberHead.IsHeadOf.isOneWord_name
    {modifierWords : List Text}
    {covered : Text}
    {head : MemberHead}
    (h : IsHeadOf modifierWords covered head) :
    IsOneWord head.name := by
  rcases h.exists_written with ⟨_, _, -, -, -, -, hName, -⟩
  exact hName

namespace Property

variable {body : Text}
variable {line : Nat}
variable {p : Property}

theorem exists_header_of_mem_all
    (hp : p ∈ all body line) :
    ∃ h ∈ body.findAll PropertyHeader.reader,
      h.IsMember ∧ h.head.name = p.name :=
  mem_map_name_all_iff.mp (List.mem_map_of_mem hp)

theorem isOneWord_name
    (hp : p ∈ all body line) : IsOneWord p.name := by
  rcases exists_header_of_mem_all hp with ⟨h, hMem, -, hName⟩
  rcases List.mem_map.mp hMem with ⟨o, ho, rfl⟩
  rw [← hName]
  exact (PropertyHeader.isHeadOf ho).isOneWord_name

theorem startsLower_name
    (hp : p ∈ all body line) : startsLower p.name = false := by
  rcases exists_header_of_mem_all hp with
    ⟨h, -, hMember, hName⟩
  rw [← hName]
  exact hMember.name

/-
  All names start with capitals if the names of headers that
  are no nested types start with capitals or small letters.
-/
theorem startsUpper_names_iff
    (body : Text)
    (line : Nat) :
    (∀ p ∈ all body line, startsUpper p.name = true) ↔
      ∀ h ∈ body.findAll PropertyHeader.reader,
        (∀ w ∈ Text.words h.head.type, w ∉ TypeKind.reserved) →
          startsUpper h.head.name = true ∨
            startsLower h.head.name = true := by
  constructor
  · intro hUpper h hMem hType
    cases hLower : startsLower h.head.name with
    | true => exact Or.inr rfl
    | false =>
        left
        have hName :
            h.head.name ∈ (all body line).map Property.name :=
          mem_map_name_all_iff.mpr
            ⟨h, hMem, ⟨hType, hLower⟩, rfl⟩
        rcases List.mem_map.mp hName with ⟨p, hp, hEq⟩
        rw [← hEq]
        exact hUpper p hp
  · intro hHeaders p hp
    rcases exists_header_of_mem_all hp with
      ⟨h, hMem, hMember, hName⟩
    rw [← hName]
    apply (hHeaders h hMem hMember.type).resolve_right
    rw [hMember.name]
    exact Bool.false_ne_true

end Property

------------------------------------------------------------
-- Names In A File
------------------------------------------------------------

namespace SourceFile

/-
  The names of the properties of a type are different words,
  and start with no small letters. They all start with
  capitals just if no header that is read as a property has a
  name whose first character is neither, such as a digit, an
  underscore or a letter without cases.
-/
theorem startsUpper_properties_iff (path t : Text) :
    (∀ d ∈ (ofText path t).types,
        (d.members.properties.map Property.name).Nodup ∧
          ∀ p ∈ d.members.properties,
            IsOneWord p.name ∧ startsLower p.name = false) ∧
      ((∀ d ∈ (ofText path t).types,
          ∀ p ∈ d.members.properties,
            startsUpper p.name = true) ↔
        ∀ body ∈ TypeDeclaration.bodies t,
          ∀ h ∈ body.findAll PropertyHeader.reader,
            (∀ w ∈ Text.words h.head.type,
                w ∉ TypeKind.reserved) →
              startsUpper h.head.name = true ∨
                startsLower h.head.name = true) := by
  constructor
  · apply forall_members
      (p := fun members =>
        (members.properties.map Property.name).Nodup ∧
          ∀ p ∈ members.properties,
            IsOneWord p.name ∧ startsLower p.name = false)
    intro body line
    constructor
    · exact nodup_map_firstBy Property.name _
    · intro p hp
      exact ⟨Property.isOneWord_name hp,
        Property.startsLower_name hp⟩
  · exact forall_members_iff
      (p := fun members =>
        ∀ p ∈ members.properties, startsUpper p.name = true)
      Property.startsUpper_names_iff path t

/- An underscore is neither, so a private field is reported. -/
theorem startsUpper_properties_underscore :
    ((ofText "A.cs".toList
            ("public class A\n\x7b\n".toList ++
              "    private int _x;\n\x7d\n".toList)
          ).types.map fun d => d.members.properties) =
        [[⟨.owner, "int".toList, "_x".toList, 3⟩]] ∧
      startsUpper "_x".toList = false := by
  decide +kernel

end SourceFile

end SourceDocs
