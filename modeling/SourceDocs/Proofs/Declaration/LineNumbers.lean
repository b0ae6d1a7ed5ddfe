import SourceDocs.Proofs.Declaration.FoundMembers
import SourceDocs.Proofs.Text.LineEnds

/-
  The lines that declarations are reported on.

  A declaration is reported on the line that the access
  keyword of its header stands on. Headers of types are
  looked for in the whole text, those of members in a body
  alone; as the line of a member is counted from the brace
  that opens the body, it is its line in the whole text too.

  Key definitions include:
    * `SourceDocs.StartsBehind`
    * `SourceDocs.MethodHeader.reported`
    * `SourceDocs.PropertyHeader.reported`
    * `SourceDocs.Members.StandBehind`

  Main results:
    * `SourceDocs.Reader.FindsDeclarations.startsBehind`
    * `SourceDocs.Members.standBehind_ofBody`
    * `SourceDocs.SourceFile.lines_ofText`
-/

------------------------------------------------------------
-- Places Of Declarations
------------------------------------------------------------

namespace SourceDocs

/-
  Whether a declaration with an access level starts behind a
  front of a text, and `line` is the number of the line that
  it starts on and is kept as it is.
-/
structure StartsBehind
    (t front : Text)
    (access : Access)
    (line : Nat) : Prop where
  keyword : front ++ access.keyword <+: t
  line_eq : line = 1 + front.lineEnds
  kept : keptLine line = line

/-
  Whether all that a reader covers stands at the front of
  the text and starts with the keyword of an access level.
-/
structure Reader.FindsDeclarations
    {α : Type}
    (read : Reader α)
    (accessOf : α → Access) : Prop where
  front : read.ReadsFront
  keyword :
    ∀ before t v x, read before t = some (v, x) →
      (accessOf v).keyword <+: x

/-
  What is found in a part of a text starts behind all that
  stands in front of it, and lines are counted from there.
-/
theorem Reader.FindsDeclarations.startsBehind
    {α : Type}
    {read : Reader α}
    {accessOf : α → Access}
    (hFinds : read.FindsDeclarations accessOf)
    {t front part : Text}
    (hPart : front ++ part <+: t)
    (hShort : t.lineEnds < lastLine)
    {o : Occurrence α}
    (ho : o ∈ (part.cut read).occurrences) :
    StartsBehind t (front ++ o.textBefore part)
      (accessOf o.value)
      (1 + front.lineEnds + (o.textBefore part).lineEnds) := by
  have hWhole :=
    Text.textBefore_append_of_mem_cut hFinds.front ho
  rcases Text.exists_read_of_mem_cutFrom ho with
    ⟨before, u, hRead⟩
  rcases hFinds.keyword before u _ _ hRead with ⟨rest, hCovered⟩
  have hKeyword :
      front ++ o.textBefore part ++ (accessOf o.value).keyword <+:
        front ++ part := by
    refine ⟨rest ++ o.after, ?_⟩
    conv_rhs => rw [← hWhole, ← hCovered]
    simp only [List.append_assoc]
  have hStarts := hKeyword.trans hPart
  have hCount :
      (front ++ o.textBefore part).lineEnds ≤ t.lineEnds :=
    ((List.prefix_append _ _).trans hStarts).sublist.count_le _
  rw [Text.lineEnds_append] at hCount
  refine ⟨hStarts, ?_, ?_⟩
  · rw [Text.lineEnds_append, Nat.add_assoc]
  · unfold keptLine
    omega

------------------------------------------------------------
-- Headers
------------------------------------------------------------

/- The level of a keyword that was read has this keyword. -/
theorem Access.keyword_ofKeyword
    {w : Text}
    (hw : w ∈ keywords) : (ofKeyword w).keyword = w := by
  have hAll : ∀ v ∈ keywords, (ofKeyword v).keyword = v := by
    decide
  exact hAll w hw

/-
  A reader finds declarations if it reads the keyword first
  and covers what stands right behind it.
-/
theorem Reader.findsDeclarations_of_parts
    {α : Type}
    {read : Reader α}
    {accessOf : α → Access}
    (hParts :
      ∀ before t v x, read before t = some (v, x) →
        ∃ word rest tail,
          leadingAccess? before t = some (word, rest) ∧
            accessOf v = Access.ofKeyword word ∧
            x = word ++ tail ∧ tail <+: rest) :
    read.FindsDeclarations accessOf := by
  constructor
  · intro before t v x hRead
    rcases hParts before t v x hRead with
      ⟨word, rest, tail, hAccess, -, rfl, u, rfl⟩
    rcases of_leadingAccess? hAccess with ⟨-, -, rfl⟩
    exact ⟨u, List.append_assoc word tail u⟩
  · intro before t v x hRead
    rcases hParts before t v x hRead with
      ⟨word, rest, tail, hAccess, hLevel, rfl, -⟩
    rcases of_leadingAccess? hAccess with ⟨-, hMem, -⟩
    rw [hLevel, Access.keyword_ofKeyword hMem]
    exact List.prefix_append word tail

theorem Text.eq_append_run
    (p : Char → Bool)
    (t : Text) : t = (run p t).1 ++ (run p t).2 :=
  List.takeWhile_append_dropWhile.symm

namespace TypeHeader

theorem eq_append_of_skipParameters?
    {t x u : Text}
    (h : skipParameters? t = some (x, u)) : t = x ++ u := by
  unfold skipParameters? at h
  split at h
  · rcases Option.map_eq_some_iff.mp h with ⟨n, -, hEq⟩
    cases hEq
    rw [List.cons_append, List.take_append_drop]
  · cases h
    rfl

theorem eq_append_of_skipParentheses?
    {t x u : Text}
    (h : skipParentheses? t = some (x, u)) : t = x ++ u := by
  unfold skipParentheses? at h
  split at h
  · split at h
    · next t rest hDrop =>
        cases h
        have hParts := (Text.eq_of_dropWhile_ne hDrop).2
        conv_lhs => rw [hParts]
        simp
    · cases h
  · cases h
    rfl

theorem eq_append_of_skipBases?
    {t x bases u : Text}
    (h : skipBases? t = some (x, bases, u)) : t = x ++ u := by
  unfold skipBases? at h
  split at h
  · rcases Option.map_eq_some_iff.mp h with ⟨⟨list, rest⟩, hRun, hEq⟩
    cases hEq
    rw [(Text.eq_append_of_run? hRun).1, List.cons_append]
  · cases h
    rfl

theorem findsDeclarations :
    reader.FindsDeclarations TypeHeader.access := by
  apply Reader.findsDeclarations_of_parts
  intro before t v x hRead
  simp only [reader, Option.bind_eq_bind,
    Option.bind_eq_some_iff, Prod.exists] at hRead
  rcases hRead with
    ⟨word, t₁, hAccess, _, _, _, -, parameters, t₂, hParameters,
      fields, t₃, hFields, list, bases, t₄, hBases, t₅, hBrace,
      hResult⟩
  split_ifs at hResult
  rcases Prod.mk.inj (Option.some.inj hResult) with ⟨rfl, rfl⟩
  refine ⟨word, t₁, _, hAccess, rfl,
    by simp only [List.append_assoc]; rfl, t₅, ?_⟩
  have hStretch := Text.eq_append_run (fun c => isWord c || isBlank c) t₁
  have hBlanks := Text.eq_append_run isBlank t₂
  have hGap := Text.eq_append_run isBlank t₃
  rw [eq_append_of_skipParameters? hParameters] at hStretch
  rw [eq_append_of_skipParentheses? hFields] at hBlanks
  rw [eq_append_of_skipBases? hBases,
    Text.eq_append_of_after? hBrace] at hGap
  conv_rhs => rw [hStretch, hBlanks, hGap]
  simp only [List.append_assoc]

end TypeHeader

namespace MethodHeader

theorem findsDeclarations :
    reader.FindsDeclarations MethodHeader.access := by
  apply Reader.findsDeclarations_of_parts
  intro before t v x hRead
  simp only [reader, Option.bind_eq_bind,
    Option.bind_eq_some_iff, Prod.exists, Option.some.injEq]
    at hRead
  rcases hRead with
    ⟨word, t₁, hAccess, t₂, hOpen, t₃, hClose, head, -, hResult⟩
  rcases Prod.mk.inj hResult with ⟨rfl, rfl⟩
  refine ⟨word, t₁, _, hAccess, rfl,
    by simp only [List.append_assoc]; rfl, t₃, ?_⟩
  have hStretch := Text.eq_append_run MemberHead.isTypeChar t₁
  have hParameters := Text.eq_append_run (· != ')') t₂
  rw [Text.eq_append_of_after? hOpen] at hStretch
  rw [Text.eq_append_of_after? hClose] at hParameters
  conv_rhs => rw [hStretch, hParameters]
  simp only [List.append_assoc]

end MethodHeader

namespace PropertyHeader

theorem findsDeclarations :
    reader.FindsDeclarations PropertyHeader.access := by
  apply Reader.findsDeclarations_of_parts
  intro before t v x hRead
  simp only [reader, Option.bind_eq_bind,
    Option.bind_eq_some_iff, Prod.exists, Option.some.injEq]
    at hRead
  rcases hRead with
    ⟨word, t₁, hAccess, sign, hSign, head, -, hResult⟩
  rcases Prod.mk.inj hResult with ⟨rfl, rfl⟩
  rcases List.head?_eq_some_iff.mp
    (Option.filter_eq_some_iff.mp hSign).1 with ⟨t₂, hRest⟩
  refine ⟨word, t₁, _, hAccess, rfl,
    by simp only [List.append_assoc]; rfl, t₂, ?_⟩
  have hStretch := Text.eq_append_run MemberHead.isTypeChar t₁
  rw [hRest] at hStretch
  conv_rhs => rw [hStretch]
  simp only [List.append_assoc, List.singleton_append]

end PropertyHeader

------------------------------------------------------------
-- Members
------------------------------------------------------------

/- The headers in a body that are reported as methods. -/
def MethodHeader.reported
    (body : Text) : List (Occurrence MethodHeader) :=
  (body.cut reader).occurrences.filter
    fun o => o.value.head.type ∉ TypeKind.reserved

/- Those that are reported as properties. -/
def PropertyHeader.reported
    (body : Text) : List (Occurrence PropertyHeader) :=
  firstBy (fun o => o.value.head.name)
    ((body.cut reader).occurrences.filter
      fun o => decide o.value.IsMember)

/-
  Whether members are what a body declares that stands in a
  text behind a front: there is one for each header that is
  reported, and it starts where its header does.
-/
structure Members.StandBehind
    (t front body : Text)
    (members : Members) : Prop where
  methods :
    List.Forall₂
      (fun header m =>
        Method.ofHeader? m.line header = some m ∧
          StartsBehind t (front ++ header.textBefore body)
            m.access m.line)
      (MethodHeader.reported body) members.methods
  properties :
    List.Forall₂
      (fun header p =>
        Property.ofHeader? p.line header.value = some p ∧
          StartsBehind t (front ++ header.textBefore body)
            p.access p.line)
      (PropertyHeader.reported body) members.properties

/- A method has the level of its header and is on its line. -/
theorem Method.exists_of_header
    {header : Occurrence MethodHeader}
    (hType : header.value.head.type ∉ TypeKind.reserved)
    (line : Nat) :
    ∃ m, ofHeader? line header = some m ∧
      m.access = header.value.access ∧ m.line = line := by
  unfold ofHeader?
  dsimp only
  rw [if_neg (by simpa using hType)]
  exact ⟨_, rfl, rfl, rfl⟩

theorem Method.ofHeader?_eq_none
    {header : Occurrence MethodHeader}
    (hType : header.value.head.type ∈ TypeKind.reserved)
    (line : Nat) : ofHeader? line header = none := by
  unfold ofHeader?
  dsimp only
  rw [if_pos (by simpa using hType)]

namespace Members

variable {t front body : Text}

theorem methods_standBehind
    (hPart : front ++ body <+: t)
    (hShort : t.lineEnds < lastLine) :
    List.Forall₂
      (fun header m =>
        Method.ofHeader? m.line header = some m ∧
          StartsBehind t (front ++ header.textBefore body)
            m.access m.line)
      (MethodHeader.reported body)
      (Method.all body (1 + front.lineEnds)) := by
  unfold MethodHeader.reported Method.all
  rw [Text.numbered_cut MethodHeader.findsDeclarations.front,
    List.filterMap_map]
  apply forall₂_filter_filterMap
  · intro header hMem hType
    have hStarts :=
      MethodHeader.findsDeclarations.startsBehind hPart hShort
        hMem
    rcases Method.exists_of_header (by simpa using hType)
        (1 + front.lineEnds +
          (header.textBefore body).lineEnds) with
      ⟨m, hMethod, hAccess, hLine⟩
    refine ⟨m, hMethod, ?_, ?_⟩
    · rw [hLine]
      exact hMethod
    · rw [hAccess, hLine]
      exact hStarts
  · intro header _ hType
    exact Method.ofHeader?_eq_none (by simpa using hType) _

theorem properties_standBehind
    (hPart : front ++ body <+: t)
    (hShort : t.lineEnds < lastLine) :
    List.Forall₂
      (fun header p =>
        Property.ofHeader? p.line header.value = some p ∧
          StartsBehind t (front ++ header.textBefore body)
            p.access p.line)
      (PropertyHeader.reported body)
      (Property.all body (1 + front.lineEnds)) := by
  unfold PropertyHeader.reported Property.all
  rw [Text.numbered_cut PropertyHeader.findsDeclarations.front,
    List.filterMap_map]
  apply forall₂_firstBy
  · rintro header p ⟨hProperty, -⟩
    rw [Property.ofHeader?_eq] at hProperty
    split_ifs at hProperty
    rw [← Option.some.inj hProperty]
  apply forall₂_filter_filterMap
  · intro header hMem hMember
    have hStarts :=
      PropertyHeader.findsDeclarations.startsBehind hPart hShort
        hMem
    have hProperty (line : Nat) :=
      (Property.ofHeader?_eq line header.value).trans
        (if_pos (of_decide_eq_true hMember))
    exact ⟨_, hProperty _, hProperty _, hStarts⟩
  · intro header _ hOther
    exact (Property.ofHeader?_eq _ header.value).trans
      (if_neg (of_decide_eq_false hOther))

/-
  The members of a body are on their lines in the whole text
  if the body is counted from the line that it starts on.
-/
theorem standBehind_ofBody
    (hPart : front ++ body <+: t)
    (hShort : t.lineEnds < lastLine) :
    (ofBody body (1 + front.lineEnds)).StandBehind t front body :=
  ⟨methods_standBehind hPart hShort,
    properties_standBehind hPart hShort⟩

end Members

------------------------------------------------------------
-- Files
------------------------------------------------------------

/- A body stands right behind the brace of its header. -/
theorem TypeHeader.body_prefix
    (header : Occurrence TypeHeader) :
    body header <+: header.after := by
  unfold body Text.block?
  cases Text.closeAt? 0 0 header.after with
  | none => exact List.nil_prefix
  | some n => exact List.take_prefix n header.after

/-
  In a text with fewer lines than there are numbers, all
  declarations are on their lines. There is one type for
  each header of a type, and it starts where the header
  does; its members start where their headers do, in the
  text behind the header and the brace of the type.
-/
theorem SourceFile.lines_ofText
    (path t : Text)
    (hShort : t.lineEnds < lastLine) :
    List.Forall₂
      (fun header d =>
        d = TypeDeclaration.ofHeader d.line header ∧
          StartsBehind t (header.textBefore t) d.access d.line ∧
          d.members.StandBehind t
            (header.textBefore t ++ header.covered)
            (TypeHeader.body header))
      (t.cut TypeHeader.reader).occurrences
      (ofText path t).types := by
  have hFinds := TypeHeader.findsDeclarations
  unfold ofText TypeDeclaration.all
  rw [Text.numbered_cut hFinds.front, List.map_map,
    List.forall₂_map_right_iff, List.forall₂_same]
  intro header hMem
  have hWhole := Text.textBefore_append_of_mem_cut hFinds.front hMem
  have hBody :
      header.textBefore t ++ header.covered ++
          TypeHeader.body header <+: t := by
    conv_rhs => rw [← hWhole, ← List.append_assoc]
    exact (List.prefix_append_right_inj _).mpr
      (TypeHeader.body_prefix header)
  refine ⟨rfl, ?_, ?_⟩
  · have hAll : [] ++ t <+: t := List.prefix_rfl
    have hStarts :
        StartsBehind t (header.textBefore t) header.value.access
          (1 + (header.textBefore t).lineEnds) := by
      simpa using hFinds.startsBehind hAll hShort hMem
    exact hStarts
  · have hMembers := Members.standBehind_ofBody hBody hShort
    rw [Text.lineEnds_append, ← Nat.add_assoc] at hMembers
    simp only [Function.comp_apply]
    rw [TypeDeclaration.members_ofHeader]
    exact hMembers

/-
  A header over several lines with the brace on its own, and
  one with the brace behind it.
-/
def bothStyles : Text :=
  ("\npublic class A\n    : B\n\x7b\n\n" ++
    "    public int\n        X;\n" ++
    "    private void F() \x7b \x7d\n\x7d\n" ++
    "internal enum C \x7b\n    public int Y;\n\x7d").toList

theorem SourceFile.lines_ofText_of_both_styles :
    bothStyles.lineEnds < lastLine ∧
      ((ofText "A.cs".toList bothStyles).types.map fun d =>
          (d.line, d.members.methods.map Method.line,
            d.members.properties.map Property.line)) =
        [(2, [8], [6]), (10, [], [11])] ∧
      List.Forall₂
        (fun header d =>
          d = TypeDeclaration.ofHeader d.line header ∧
            StartsBehind bothStyles (header.textBefore bothStyles)
              d.access d.line ∧
            d.members.StandBehind bothStyles
              (header.textBefore bothStyles ++ header.covered)
              (TypeHeader.body header))
        (bothStyles.cut TypeHeader.reader).occurrences
        (ofText "A.cs".toList bothStyles).types := by
  have hShort : bothStyles.lineEnds < lastLine := by
    decide +kernel
  exact ⟨hShort, by decide +kernel,
    lines_ofText "A.cs".toList bothStyles hShort⟩

end SourceDocs
