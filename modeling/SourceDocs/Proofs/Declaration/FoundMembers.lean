import SourceDocs.Proofs.Declaration.Headers
import SourceDocs.Proofs.Selection
import SourceDocs.Proofs.Text.Collecting

/-
  Which headers in the body of a type are reported.

  A type has the members that are found between its braces.
  Every header of a method is reported whose type is no word
  for a kind. Of the headers of properties those that stand
  for one are reported, the first for each name. Where they
  stand makes no difference to this.

  Key definitions include:
    * `SourceDocs.TypeDeclaration.bodies`
    * `SourceDocs.startsLower`
    * `SourceDocs.PropertyHeader.IsMember`
    * `SourceDocs.PropertyHeader.IsFirst`

  Main results:
    * `SourceDocs.SourceFile.forall_members_iff`
    * `SourceDocs.Method.forall_returnType_all_iff`
    * `SourceDocs.Property.mem_map_name_all_iff`
    * `SourceDocs.Property.forall_mem_all_iff`
-/

------------------------------------------------------------
-- Occurrences Without Their Lines
------------------------------------------------------------

namespace SourceDocs

namespace Cut

variable {α : Type}

theorem map_snd_numberedFrom
    (os : List (Occurrence α))
    (line : Nat) :
    (numberedFrom line os).map Prod.snd = os := by
  induction os generalizing line with
  | nil => rfl
  | cons o os ih => rw [numberedFrom, List.map_cons, ih]

/- What is made of occurrences, told without their lines. -/
theorem map_filterMap_numbered
    {β γ : Type}
    {f : Nat → Occurrence α → Option β}
    {g : β → γ}
    {h : Occurrence α → Option γ}
    (hLine : ∀ n o, (f n o).map g = h o)
    (cut : Cut α)
    (line : Nat) :
    ((cut.numbered line).filterMap fun (n, o) => f n o).map g =
      cut.occurrences.filterMap h := by
  have hPairs := map_snd_numberedFrom cut.occurrences line
  rw [List.map_filterMap]
  conv_rhs => rw [← hPairs, List.filterMap_map]
  congr 1
  funext ⟨n, o⟩
  exact hLine n o

end Cut

------------------------------------------------------------
-- Bodies
------------------------------------------------------------

/-
  What stands between the braces behind a header; nothing if
  they do not balance.
-/
def TypeHeader.body (header : Occurrence TypeHeader) : Text :=
  (Text.block? header.after).getD []

namespace TypeDeclaration

/- The bodies of the types that a text declares. -/
def bodies (t : Text) : List Text :=
  (t.cut TypeHeader.reader).occurrences.map TypeHeader.body

/- A type has the members that its body has. -/
theorem members_ofHeader
    (line : Nat)
    (header : Occurrence TypeHeader) :
    (ofHeader line header).members =
      Members.ofBody (TypeHeader.body header)
        (line + Text.lineEnds header.covered) := by
  unfold ofHeader TypeHeader.body
  cases Text.block? header.after with
  | none => rfl
  | some body => rfl

end TypeDeclaration

/-
  What does not depend on lines holds of the members of all
  types in a file if it holds of the members of all bodies.
-/
theorem SourceFile.forall_members_iff
    {p : Members → Prop}
    {q : Text → Prop}
    (hBody : ∀ body line, p (Members.ofBody body line) ↔ q body)
    (path t : Text) :
    (∀ d ∈ (ofText path t).types, p d.members) ↔
      ∀ body ∈ TypeDeclaration.bodies t, q body := by
  have hPairs :=
    Cut.map_snd_numberedFrom (t.cut TypeHeader.reader).occurrences
      1
  unfold ofText TypeDeclaration.all TypeDeclaration.bodies
  dsimp only
  conv_rhs => rw [← hPairs]
  simp only [List.forall_mem_map, Cut.numbered,
    TypeDeclaration.members_ofHeader, hBody]

/- What holds of the members of all bodies holds in a file. -/
theorem SourceFile.forall_members
    {p : Members → Prop}
    (hBody : ∀ body line, p (Members.ofBody body line))
    (path t : Text) :
    ∀ d ∈ (ofText path t).types, p d.members :=
  (forall_members_iff (q := fun _ => True)
    (fun body line => iff_true_intro (hBody body line))
    path t).mpr fun _ _ => trivial

------------------------------------------------------------
-- Members
------------------------------------------------------------

/-
  The types of the methods in a body are those of all headers
  but the ones that declare a nested type.
-/
theorem Method.map_returnType_all
    (body : Text)
    (line : Nat) :
    (all body line).map returnType =
      ((body.findAll MethodHeader.reader).map (·.head.type)).filter
        (· ∉ TypeKind.reserved) := by
  unfold all Text.findAll
  rw [Cut.map_filterMap_numbered
    (h := fun o =>
      if o.value.head.type ∈ TypeKind.reserved then none
      else some o.value.head.type)]
  · rw [List.map_map, ← List.filterMap_eq_filter,
      List.filterMap_map]
    congr 1
    funext o
    simp [Option.guard]
  · intro n o
    unfold ofHeader?
    simp only [List.contains_iff_mem]
    split_ifs
    · rfl
    · rfl

/- So what holds of all types that name no kind holds of them. -/
theorem Method.forall_returnType_all_iff
    {p : Text → Prop}
    (body : Text)
    (line : Nat) :
    (∀ m ∈ all body line, p m.returnType) ↔
      ∀ o ∈ (body.cut MethodHeader.reader).occurrences,
        o.value.head.type ∉ TypeKind.reserved →
          p o.value.head.type := by
  rw [← List.forall_mem_map, map_returnType_all]
  simp [Text.findAll]

/- Whether a text starts with a small letter. -/
def startsLower (t : Text) : Bool :=
  t.head?.any isLower

namespace PropertyHeader

/-
  Whether a header stands for a property: its type holds no
  word for a kind, and its name starts with no small letter.
-/
structure IsMember (header : PropertyHeader) : Prop where
  type :
    ∀ w ∈ Text.words header.head.type, w ∉ TypeKind.reserved
  name : startsLower header.head.name = false

instance (header : PropertyHeader) :
    Decidable header.IsMember :=
  decidable_of_iff
    ((∀ w ∈ Text.words header.head.type,
        w ∉ TypeKind.reserved) ∧
      startsLower header.head.name = false)
    ⟨fun ⟨h₁, h₂⟩ => ⟨h₁, h₂⟩, fun h => ⟨h.type, h.name⟩⟩

/-
  Whether an occurrence is the first for its name among the
  headers in a body that stand for properties.
-/
def IsFirst
    (body : Text)
    (o : Occurrence PropertyHeader) : Prop :=
  o.value.IsMember ∧
    ∃ front back,
      (body.cut reader).occurrences = front ++ o :: back ∧
        ∀ o' ∈ front, o'.value.IsMember →
          o'.value.head.name ≠ o.value.head.name

/- What comes first is found by taking the first of each. -/
theorem isFirst_iff
    {body : Text}
    {o : Occurrence PropertyHeader} :
    IsFirst body o ↔
      o ∈ firstBy (fun o => o.value.head.name)
        ((body.cut reader).occurrences.filter
          fun o => decide o.value.IsMember) := by
  rw [mem_firstBy_iff]
  constructor
  · rintro ⟨hMember, front, back, hEq, hFront⟩
    refine ⟨front.filter fun o => decide o.value.IsMember,
      back.filter fun o => decide o.value.IsMember, ?_, ?_⟩
    · rw [hEq, List.filter_append,
        List.filter_cons_of_pos (by simpa using hMember)]
    · intro o' ho'
      rcases List.mem_filter.mp ho' with ⟨hMem, hIs⟩
      exact hFront o' hMem (by simpa using hIs)
  · rintro ⟨front, back, hEq, hFront⟩
    rcases List.filter_eq_append_iff.mp hEq with
      ⟨before, behind, hOccurrences, hBefore, hBehind⟩
    rcases List.filter_eq_cons_iff.mp hBehind with
      ⟨passed, back', rfl, hPassed, hMember, -⟩
    refine ⟨by simpa using hMember, before ++ passed, back', ?_, ?_⟩
    · rw [hOccurrences, List.append_assoc]
    · intro o' ho' hIs
      rcases List.mem_append.mp ho' with hMem | hMem
      · apply hFront
        rw [← hBefore]
        exact List.mem_filter.mpr ⟨hMem, by simpa using hIs⟩
      · exact absurd (by simpa using hIs) (hPassed o' hMem)

theorem IsFirst.mem_occurrences
    {body : Text}
    {o : Occurrence PropertyHeader}
    (h : IsFirst body o) : o ∈ (body.cut reader).occurrences := by
  rcases h.2 with ⟨front, back, hEq, -⟩
  rw [hEq]
  exact List.mem_append_right front List.mem_cons_self

end PropertyHeader

namespace Property

/- A header gives a property if it stands for one. -/
theorem ofHeader?_eq
    (line : Nat)
    (header : PropertyHeader) :
    ofHeader? line header =
      if header.IsMember then
        some
          ⟨header.access, header.head.type, header.head.name,
            line⟩
      else none := by
  have hIf :
      ((Text.words header.head.type).any
            TypeKind.reserved.contains ||
          header.head.name.head?.any isLower) = true ↔
        ¬ header.IsMember := by
    rw [← not_iff_not, not_not, Bool.not_eq_true,
      Bool.or_eq_false_iff, List.any_eq_false]
    constructor
    · rintro ⟨hType, hName⟩
      exact ⟨by simpa using hType, hName⟩
    · rintro ⟨hType, hName⟩
      exact ⟨by simpa using hType, hName⟩
  unfold ofHeader?
  dsimp only
  split_ifs with h h' h'
  · exact absurd h' (hIf.mp h)
  · rfl
  · rfl
  · exact absurd (hIf.mpr h') h

theorem map_head_ofHeader?
    (line : Nat)
    (header : PropertyHeader) :
    (ofHeader? line header).map (fun p => (p.name, p.type)) =
      if header.IsMember then
        some (header.head.name, header.head.type)
      else none := by
  rw [ofHeader?_eq]
  split_ifs
  · rfl
  · rfl

/-
  The properties in a body are those of the headers that
  come first for their names.
-/
theorem map_head_all
    (body : Text)
    (line : Nat) :
    (all body line).map (fun p => (p.name, p.type)) =
      (firstBy (fun o => o.value.head.name)
        ((body.cut PropertyHeader.reader).occurrences.filter
          fun o => decide o.value.IsMember)).map
            fun o => (o.value.head.name, o.value.head.type) := by
  have hMembers (os : List (Occurrence PropertyHeader)) :
      (os.filterMap fun o =>
          if o.value.IsMember then
            some (o.value.head.name, o.value.head.type)
          else none) =
        (os.filter fun o => decide o.value.IsMember).map
          fun o => (o.value.head.name, o.value.head.type) := by
    rw [← List.filterMap_eq_filter, List.map_filterMap]
    congr 1
    funext o
    by_cases h : o.value.IsMember
    · simp [Option.guard, h]
    · simp [Option.guard, h]
  unfold all
  rw [map_firstBy (k := Prod.fst) fun _ => rfl,
    Cut.map_filterMap_numbered
      (f := fun n o => ofHeader? n o.value)
      fun n o => map_head_ofHeader? n o.value,
    hMembers, map_firstBy (k := Prod.fst) fun _ => rfl]

/- Every header that stands for a property gives its name. -/
theorem mem_map_name_all_iff
    {body name : Text}
    {line : Nat} :
    name ∈ (all body line).map Property.name ↔
      ∃ h ∈ body.findAll PropertyHeader.reader,
        h.IsMember ∧ h.head.name = name := by
  have hNames :=
    congrArg (List.map Prod.fst) (map_head_all body line)
  rw [List.map_map, List.map_map] at hNames
  have hAll :
      (all body line).map Property.name =
        (firstBy (fun o => o.value.head.name)
          ((body.cut PropertyHeader.reader).occurrences.filter
            fun o => decide o.value.IsMember)).map
              fun o => o.value.head.name :=
    hNames
  rw [hAll, mem_map_firstBy_iff]
  simp [Text.findAll, and_assoc]

/- Types and names of properties are those of first headers. -/
theorem forall_mem_all_iff
    {p : Text → Text → Prop}
    (body : Text)
    (line : Nat) :
    (∀ q ∈ all body line, p q.name q.type) ↔
      ∀ o, PropertyHeader.IsFirst body o →
        p o.value.head.name o.value.head.type := by
  have hHeads := map_head_all body line
  constructor
  · intro h o hFirst
    have hMem :
        (o.value.head.name, o.value.head.type) ∈
          (all body line).map fun q => (q.name, q.type) := by
      rw [hHeads]
      exact List.mem_map_of_mem
        (PropertyHeader.isFirst_iff.mp hFirst)
    rcases List.mem_map.mp hMem with ⟨q, hq, hEq⟩
    rcases Prod.mk.inj hEq with ⟨hName, hType⟩
    rw [← hName, ← hType]
    exact h q hq
  · intro h q hq
    have hMem := List.mem_map_of_mem
      (f := fun q : Property => (q.name, q.type)) hq
    rw [hHeads] at hMem
    rcases List.mem_map.mp hMem with ⟨o, ho, hEq⟩
    rcases Prod.mk.inj hEq with ⟨hName, hType⟩
    rw [← hName, ← hType]
    exact h o (PropertyHeader.isFirst_iff.mpr ho)

end Property

end SourceDocs
