import SourceDocs.Proofs.Declaration.FoundMembers
import SourceDocs.Proofs.Declaration.MemberHeads

/-
  The types that members are reported with.

  A header of a nested type is no member. Headers of
  properties are told by every word of their types, those of
  methods only by the type as a whole; and a header that
  leaves out the type is still one if there are blanks
  enough. So members have types just if no header leaves
  them out and none of a method has a kind among the words
  of its type.

  Key definitions include:
    * `SourceDocs.IsTypeText`
    * `SourceDocs.MemberHead.NamesKind`

  Main results:
    * `SourceDocs.MemberHead.IsHeadOf.isTypeText_iff`
    * `SourceDocs.SourceFile.isTypeText_members_iff`
-/

------------------------------------------------------------
-- Types
------------------------------------------------------------

namespace SourceDocs

/- A text that can be a type: it has no word for a kind. -/
structure IsTypeText (t : Text) : Prop where
  ne_nil : t ≠ []
  free : ∀ w ∈ Text.words t, w ∉ TypeKind.reserved

instance (t : Text) : Decidable (IsTypeText t) :=
  decidable_of_iff
    (t ≠ [] ∧ ∀ w ∈ Text.words t, w ∉ TypeKind.reserved)
    ⟨fun ⟨h₁, h₂⟩ => ⟨h₁, h₂⟩, fun h => ⟨h.ne_nil, h.free⟩⟩

/- A word is a type, as long as it is none for a kind. -/
theorem IsOneWord.isTypeText
    {w : Text}
    (hw : IsOneWord w)
    (hFree : w ∉ TypeKind.reserved) : IsTypeText w := by
  refine ⟨hw.ne_nil, ?_⟩
  rw [hw.words_eq, List.forall_mem_singleton]
  exact hFree

/- Modifiers of methods are not used for kinds. -/
theorem MethodHeader.isTypeText_of_mem
    {w : Text}
    (hw : w ∈ modifierWords) : IsTypeText w := by
  have hFree : ∀ v ∈ modifierWords, v ∉ TypeKind.reserved := by
    decide
  have hOne : IsOneWord w :=
    isOneWord_of_mem_headWords
      (mem_headWords_of_mem
        (Or.inr (Or.inr (Or.inr (Or.inl hw)))))
  exact hOne.isTypeText (hFree w hw)

namespace MemberHead

/-
  Whether there is a word for a kind among two or more that a
  header has for its type.
-/
structure NamesKind
    (modifierWords : List Text)
    (covered : Text) : Prop where
  many : 2 ≤ (typeWords modifierWords covered).length
  kind :
    ∃ w ∈ typeWords modifierWords covered,
      w ∈ TypeKind.reserved

instance (modifierWords : List Text) (covered : Text) :
    Decidable (NamesKind modifierWords covered) :=
  decidable_of_iff
    (2 ≤ (typeWords modifierWords covered).length ∧
      ∃ w ∈ typeWords modifierWords covered,
        w ∈ TypeKind.reserved)
    ⟨fun ⟨h₁, h₂⟩ => ⟨h₁, h₂⟩, fun h => ⟨h.many, h.kind⟩⟩

namespace IsHeadOf

variable {modifierWords : List Text}
variable {covered : Text}
variable {head : MemberHead}

/- Words are a type, unless a kind is one of several. -/
theorem isTypeText_of_words
    {type : Text}
    (hSome : typeWords modifierWords covered ≠ [])
    (hSame : Text.words type = typeWords modifierWords covered)
    (hOne :
      ∀ w, typeWords modifierWords covered = [w] → type = w) :
    (type ∉ TypeKind.reserved → IsTypeText type) ↔
      ¬ NamesKind modifierWords covered := by
  have hNil : type ≠ [] := by
    rintro rfl
    exact hSome hSame.symm
  cases hWords : typeWords modifierWords covered with
  | nil => exact absurd hWords hSome
  | cons w ws =>
      cases ws with
      | nil =>
          -- A single word is tested as a whole.
          have hType := hOne w hWords
          refine iff_of_true (fun hFree => ⟨hNil, ?_⟩) fun h => ?_
          · rw [hSame, hWords, ← hType, List.forall_mem_singleton]
            exact hFree
          · have hMany := h.many
            simp [hWords] at hMany
      | cons v ws =>
          -- No word for a kind has blanks, so the test is idle.
          have hFree : type ∉ TypeKind.reserved := by
            intro hMem
            rw [(TypeKind.isOneWord_of_mem hMem).words_eq,
              hWords] at hSame
            simp at hSame
          have hMany :
              2 ≤ (typeWords modifierWords covered).length := by
            simp [hWords]
          constructor
          · rintro hType ⟨-, u, hu, hKind⟩
            rw [← hSame] at hu
            exact (hType hFree).free u hu hKind
          · intro hNot _
            refine ⟨hNil, fun u hu hKind => ?_⟩
            rw [hSame] at hu
            exact hNot ⟨hMany, u, hu, hKind⟩

/-
  If only types that are a word for a kind are passed over,
  what is left is a type unless it is left out, or such a
  word is one of several.
-/
theorem isTypeText_iff
    (hModifiers : ∀ w ∈ modifierWords, IsTypeText w)
    (h : IsHeadOf modifierWords covered head) :
    (head.type ∉ TypeKind.reserved → IsTypeText head.type) ↔
      ¬ LacksType modifierWords covered ∧
        ¬ NamesKind modifierWords covered := by
  rcases h.type_cases with
    ⟨hSome, hSame, hOne⟩ | ⟨hLacks, hNil⟩ | ⟨hNone, hHas, hMem⟩
  · have hHas : ¬ LacksType modifierWords covered := by
      intro hLacks
      exact hSome (typeWords_eq_nil_iff.mpr hLacks.words)
    rw [isTypeText_of_words hSome hSame hOne]
    exact (and_iff_right hHas).symm
  · have hFree : ([] : Text) ∉ TypeKind.reserved := by
      decide
    rw [hNil]
    exact iff_of_false (fun h => (h hFree).ne_nil rfl)
      fun h => h.1 hLacks
  · refine iff_of_true (fun _ => hModifiers _ hMem) ⟨hHas, ?_⟩
    intro hKind
    have hMany := hKind.many
    rw [hNone] at hMany
    simp at hMany

end IsHeadOf

end MemberHead

------------------------------------------------------------
-- Types In A Body
------------------------------------------------------------

/- A property has a type unless its header leaves it out. -/
theorem Property.isTypeText_types_iff
    (body : Text)
    (line : Nat) :
    (∀ p ∈ all body line, IsTypeText p.type) ↔
      ∀ o, PropertyHeader.IsFirst body o →
        ¬ MemberHead.LacksType PropertyHeader.modifierWords
            o.covered := by
  have hModifiers : [] ∉ PropertyHeader.modifierWords := by
    decide
  rw [forall_mem_all_iff (p := fun _ type => IsTypeText type)]
  refine forall_congr' fun o => forall_congr' fun hFirst => ?_
  have hHead := PropertyHeader.isHeadOf hFirst.mem_occurrences
  have hNil := hHead.type_eq_nil_iff hModifiers
  rw [← hNil]
  constructor
  · exact fun hType => hType.ne_nil
  · exact fun hSome => ⟨hSome, hFirst.1.type⟩

/-
  A method has one unless it is left out too, or a word for a
  kind is one of several.
-/
theorem Method.isTypeText_returnTypes_iff
    (body : Text)
    (line : Nat) :
    (∀ m ∈ all body line, IsTypeText m.returnType) ↔
      ∀ o ∈ (body.cut MethodHeader.reader).occurrences,
        ¬ MemberHead.LacksType MethodHeader.modifierWords
            o.covered ∧
          ¬ MemberHead.NamesKind MethodHeader.modifierWords
              o.covered := by
  rw [forall_returnType_all_iff (p := IsTypeText)]
  refine forall_congr' fun o => forall_congr' fun ho => ?_
  exact (MethodHeader.isHeadOf ho).isTypeText_iff fun _ hw =>
    MethodHeader.isTypeText_of_mem hw

------------------------------------------------------------
-- Types In A File
------------------------------------------------------------

namespace SourceFile

/-
  No type of a property has a word for a kind, and no type of
  a method is one. Besides, all of them are types with no
  such word in them just if no header that is reported leaves
  out the type, and none of a method has such a word among
  several.
-/
theorem isTypeText_members_iff (path t : Text) :
    (∀ d ∈ (ofText path t).types,
        (∀ p ∈ d.members.properties, ∀ w ∈ Text.words p.type,
            w ∉ TypeKind.reserved) ∧
          ∀ m ∈ d.members.methods,
            m.returnType ∉ TypeKind.reserved) ∧
      ((∀ d ∈ (ofText path t).types,
          (∀ p ∈ d.members.properties, IsTypeText p.type) ∧
            ∀ m ∈ d.members.methods, IsTypeText m.returnType) ↔
        ∀ body ∈ TypeDeclaration.bodies t,
          (∀ o, PropertyHeader.IsFirst body o →
              ¬ MemberHead.LacksType PropertyHeader.modifierWords
                  o.covered) ∧
            ∀ o ∈ (body.cut MethodHeader.reader).occurrences,
              ¬ MemberHead.LacksType MethodHeader.modifierWords
                  o.covered ∧
                ¬ MemberHead.NamesKind MethodHeader.modifierWords
                    o.covered) := by
  constructor
  · apply forall_members
      (p := fun members =>
        (∀ p ∈ members.properties, ∀ w ∈ Text.words p.type,
            w ∉ TypeKind.reserved) ∧
          ∀ m ∈ members.methods,
            m.returnType ∉ TypeKind.reserved)
    intro body line
    constructor
    · exact (Property.forall_mem_all_iff
        (p := fun _ type =>
          ∀ w ∈ Text.words type, w ∉ TypeKind.reserved)
        body line).mpr fun o hFirst => hFirst.1.type
    · exact (Method.forall_returnType_all_iff
        (p := (· ∉ TypeKind.reserved)) body line).mpr
          fun _ _ hFree => hFree
  · exact forall_members_iff
      (p := fun members =>
        (∀ p ∈ members.properties, IsTypeText p.type) ∧
          ∀ m ∈ members.methods, IsTypeText m.returnType)
      (fun body line =>
        and_congr (Property.isTypeText_types_iff body line)
          (Method.isTypeText_returnTypes_iff body line))
      path t

/-
  A kind of two words is read as the type of a method, and so
  are the blanks before a constructor.
-/
theorem isTypeText_members_kinds :
    ((ofText "A.cs".toList
            ("public class A\n\x7b\n".toList ++
              "    public record struct P(int X);\n".toList ++
              "    public   A(int x) \x7b \x7d\n\x7d\n".toList)
          ).types.map fun d => d.members.methods.map
            fun m => (m.returnType, m.name)) =
        [[("record struct".toList, "P".toList),
          ([], "A".toList)]] ∧
      ¬ IsTypeText "record struct".toList ∧ ¬ IsTypeText [] := by
  decide +kernel

end SourceFile

end SourceDocs
