import SourceDocs.Proofs.Declaration.Blocks
import SourceDocs.Proofs.Declaration.Members
import SourceDocs.Proofs.Selection

/-
  Files, extracted as they were written down.

  The header of a type is read up to its brace, the block
  behind it holds the members, and the next type starts
  behind the block. So a text that declares types is read
  back to them, each on its line.

  Main results:
    * `SourceDocs.Members.ofBody_text`
    * `SourceDocs.TypeDraft.all_render`
    * `SourceDocs.SourceFile.ofText_render`
-/

------------------------------------------------------------
-- Members In A Body
------------------------------------------------------------

namespace SourceDocs

namespace MemberDraft

theorem map_name_propertiesFrom
    (ms : List MemberDraft)
    (line : Nat) :
    (propertiesFrom line ms).map Property.name =
      ms.filterMap propertyName? := by
  induction ms generalizing line with
  | nil => rfl
  | cons m ms ih =>
      cases m with
      | property d =>
          rw [propertiesFrom, List.map_cons, ih]
          rfl
      | method d =>
          rw [propertiesFrom, ih]
          rfl

/- The line end behind the opening brace is passed over. -/
theorem sights_newline
    {α : Type}
    {read : Reader α}
    {before : Option Char}
    (hHeeds : read.Heeds Access.keywords)
    (line : Nat)
    (u : Text) :
    Text.sights read before line ('\n' :: u) =
      Text.sights read (some '\n') (line + 1) u := by
  have hQuiet : Text.Quiet Access.keywords [] := by
    decide
  exact Text.sights_of_quiet hHeeds (by decide) hQuiet u

end MemberDraft

/- The members in a body are those that were written. -/
theorem Members.ofBody_text
    {ms : List MemberDraft}
    (hDistinct :
      (ms.filterMap MemberDraft.propertyName?).Nodup)
    (line : Nat) :
    Members.ofBody ('\n' :: MemberDraft.text ms) line =
      ⟨MemberDraft.methodsFrom (line + 1) ms,
        MemberDraft.propertiesFrom (line + 1) ms⟩ := by
  have hMethods :
      Method.all ('\n' :: MemberDraft.text ms) line =
        MemberDraft.methodsFrom (line + 1) ms := by
    rw [Method.all,
      Text.filterMap_numbered Method.ofHeader? fun _ _ => rfl,
      MemberDraft.sights_newline MethodHeader.heeds]
    exact MemberDraft.sights_methods ms (line + 1)
  have hProperties :
      Property.all ('\n' :: MemberDraft.text ms) line =
        MemberDraft.propertiesFrom (line + 1) ms := by
    rw [Property.all,
      Text.filterMap_numbered
        (fun n header => Property.ofHeader? n header.value)
        fun _ _ => rfl,
      MemberDraft.sights_newline PropertyHeader.heeds,
      MemberDraft.sights_properties]
    apply firstBy_of_nodup
    rwa [MemberDraft.map_name_propertiesFrom]
  rw [Members.ofBody, hMethods, hProperties]

------------------------------------------------------------
-- Balanced Drafts
------------------------------------------------------------

theorem IsOneWord.isBalanced
    {w : Text}
    (hw : IsOneWord w) : Text.IsBalanced w :=
  Text.isBalanced_of_not_mem (hw.not_mem (by decide))
    (hw.not_mem (by decide))

namespace MemberDraft

theorem isBalanced_spaced
    {ws : List Text}
    (hws : ∀ w ∈ ws, IsOneWord w) :
    Text.IsBalanced (Text.spaced ws) := by
  have hNot :
      ∀ c, isWord c = false → c ≠ ' ' → c ∉ Text.spaced ws := by
    intro c hc hSpace hMem
    rcases List.mem_flatMap.mp hMem with ⟨w, hw, hMem⟩
    rcases List.mem_cons.mp hMem with hMem | hMem
    · exact hSpace hMem
    · exact (hws w hw).not_mem hc hMem
  exact Text.isBalanced_of_not_mem
    (hNot _ (by decide) (by decide))
    (hNot _ (by decide) (by decide))

theorem isBalanced_line (d : PropertyDraft) :
    Text.IsBalanced d.line := by
  have hAccessors :
      Text.IsBalanced " \x7b get; set; \x7d".toList := by
    have hInside : Text.IsBalanced " get; set; ".toList :=
      Text.isBalanced_of_not_mem (by decide) (by decide)
    exact (Text.isBalanced_of_not_mem (t := [' ']) (by decide)
      (by decide)).append hInside.block
  exact (d.access.isOneWord.isBalanced.append
    (isBalanced_spaced (by
      simp [d.type.isOneWord, d.name.isOneWord]))).append
    hAccessors

theorem isBalanced_signature (d : MethodDraft) :
    Text.IsBalanced d.signature := by
  have hParameters :
      ∀ c, isWord c = false → c ≠ ' ' → c ≠ ',' →
        c ∉ d.parameterText := by
    intro c hc hSpace hComma hMem
    rcases Text.mem_join hMem with hMem | ⟨t, ht, hMem⟩
    · have hAll : ∀ c ∈ ", ".toList, c = ',' ∨ c = ' ' := by
        decide
      rcases hAll c hMem with h | h
      · exact hComma h
      · exact hSpace h
    · rcases List.mem_map.mp ht with ⟨⟨type, name⟩, -, rfl⟩
      exact Parameter.not_mem_written type.isOneWord
        name.isOneWord hc hSpace hMem
  have hList :
      Text.IsBalanced ('(' :: d.parameterText ++ [')']) := by
    apply Text.isBalanced_of_not_mem
    · simp [hParameters '\x7b' (by decide) (by decide) (by decide)]
    · simp [hParameters '\x7d' (by decide) (by decide) (by decide)]
  have h :=
    (d.access.isOneWord.isBalanced.append
      (isBalanced_spaced d.isOneWord_of_mem)).append hList
  rwa [← List.append_assoc] at h

/- The text of members is balanced. -/
theorem isBalanced_text (ms : List MemberDraft) :
    Text.IsBalanced (text ms) := by
  have hNewline : Text.IsBalanced ['\n'] :=
    Text.isBalanced_of_not_mem (by decide) (by decide)
  induction ms with
  | nil => exact Text.isBalanced_nil
  | cons m ms ih =>
      cases m with
      | property d =>
          have hText :
              text (.property d :: ms) =
                d.line ++ ['\n'] ++ text ms := by
            rw [text_property, ← d.line_eq]
            simp
          rw [hText]
          exact ((isBalanced_line d).append hNewline).append ih
      | method d =>
          have hText :
              text (.method d :: ms) =
                d.signature ++ ['\n'] ++
                  '\x7b' :: (['\n'] ++ ['\x7d']) ++ ['\n'] ++
                  text ms := by
            rw [text_method]
            simp [MethodDraft.blockText]
          rw [hText]
          exact ((((isBalanced_signature d).append hNewline).append
            hNewline.block).append hNewline).append ih

end MemberDraft

------------------------------------------------------------
-- Headers Of Types
------------------------------------------------------------

namespace TypeDraft

theorem newline_not_mem_baseText (d : TypeDraft) :
    '\n' ∉ d.baseText := by
  rw [baseText]
  split_ifs
  · exact List.not_mem_nil
  · have hList : '\n' ∉ Text.join ", ".toList d.bases := by
      intro hMem
      rcases Text.mem_join hMem with hMem | ⟨w, hw, hMem⟩
      · exact absurd hMem (by decide)
      · exact (d.isOneWord_of_mem_bases w hw).not_mem (by decide)
          hMem
    rw [List.mem_append, not_or]
    exact ⟨by decide, hList⟩

/- A header is on one line. -/
theorem lineEnds_header (d : TypeDraft) :
    Text.lineEnds d.header = 0 := by
  apply Text.lineEnds_eq_zero
  have hSign : isWord '\n' = false := by decide
  have hWords : '\n' ∉ Text.spaced d.words := by
    intro hMem
    rcases List.mem_flatMap.mp hMem with ⟨w, hw, hMem⟩
    rcases List.mem_cons.mp hMem with hMem | hMem
    · exact absurd hMem (by decide)
    · exact (d.isOneWord_of_mem_words w hw).not_mem hSign hMem
  rw [header, List.mem_append, List.mem_append, not_or, not_or]
  exact ⟨⟨d.access.isOneWord.not_mem hSign, hWords⟩,
    d.newline_not_mem_baseText⟩

/- The list of bases is read up to the brace below it. -/
theorem skipBases?_baseList
    (d : TypeDraft)
    (hBases : d.bases ≠ [])
    (u : Text) :
    TypeHeader.skipBases?
        ((':' :: ([' '] ++ d.baseList ++ ['\n'])) ++
          '\x7b' :: u) =
      some
        (':' :: ([' '] ++ d.baseList ++ ['\n']), d.baseList,
          '\x7b' :: u) := by
  have hTrimmed : Text.IsTrimmed d.baseList :=
    Text.IsTrimmed.join
      (fun w hw => Text.isTrimmed_of_isOneWord
        (d.isOneWord_of_mem_bases w hw)) hBases _
  have hSpace : ∀ c ∈ [' '], isBlank c = true := by decide
  have hNewline : ∀ c ∈ ['\n'], isBlank c = true := by decide
  have hRun :
      Text.run? TypeHeader.isBaseChar
          (([' '] ++ d.baseList ++ ['\n']) ++ '\x7b' :: u) =
        some ([' '] ++ d.baseList ++ ['\n'], '\x7b' :: u) := by
    apply Text.run?_append (by simp)
    · intro c hc
      rcases List.mem_append.mp hc with hc | hc
      · rcases List.mem_append.mp hc with hc | hc
        · rw [List.mem_singleton.mp hc]
          decide
        · exact d.isBaseChar_of_mem_baseList c hc
      · rw [List.mem_singleton.mp hc]
        decide
    · intro c hc
      cases hc
      decide
  rw [List.cons_append, TypeHeader.skipBases?, hRun,
    Option.map_some]
  dsimp only
  rw [hTrimmed.trim_append hSpace hNewline]

/- The header of a draft is read up to the brace below it. -/
theorem reader_header
    {before : Option Char}
    (hStart : atWordStart before = true)
    (d : TypeDraft)
    (u : Text) :
    TypeHeader.reader before
        (d.header ++ ['\n', '\x7b'] ++ u) =
      some
        (⟨d.access, d.modifiers.map Subtype.val, d.kind,
          d.name.text, d.baseList⟩,
          d.header ++ ['\n', '\x7b']) := by
  have hNil : d.words ≠ [] := by
    simp [words]
  by_cases hBases : d.bases = []
  · have hNewline : ∀ c ∈ ['\n'], isBlank c = true := by decide
    have hSkip :
        TypeHeader.skipBases? ([] ++ '\x7b' :: u) =
          some ([], [], '\x7b' :: u) :=
      rfl
    have hRead :=
      TypeHeader.reader_words hStart d.access
        d.isOneWord_of_mem_words hNil hNewline d.ofWords?_words
        ⟨'\x7b', u, rfl, Or.inr rfl⟩ hSkip
    have hHeader :
        d.header = d.access.keyword ++ Text.spaced d.words := by
      rw [header, baseText, if_pos hBases, List.append_nil]
    have hList : d.baseList = [] := by
      rw [baseList, hBases]
      rfl
    have hText :
        d.header ++ ['\n', '\x7b'] ++ u =
          d.access.keyword ++
            (Text.spaced d.words ++ ['\n'] ++
              ([] ++ '\x7b' :: u)) := by
      rw [hHeader]
      simp
    rw [hText, hRead, hList, hHeader]
    simp
  · have hSpace : ∀ c ∈ [' '], isBlank c = true := by decide
    have hRead :=
      TypeHeader.reader_words hStart d.access
        d.isOneWord_of_mem_words hNil hSpace d.ofWords?_words
        ⟨':', _, rfl, Or.inl rfl⟩
        (d.skipBases?_baseList hBases u)
    have hHeader :
        d.header =
          d.access.keyword ++ Text.spaced d.words ++
            " : ".toList ++ d.baseList := by
      rw [header, baseText, if_neg hBases, baseList,
        List.append_assoc, List.append_assoc, List.append_assoc]
    have hText :
        d.header ++ ['\n', '\x7b'] ++ u =
          d.access.keyword ++
            (Text.spaced d.words ++ [' '] ++
              (':' :: ([' '] ++ d.baseList ++ ['\n']) ++
                '\x7b' :: u)) := by
      rw [hHeader]
      simp
    rw [hText, hRead, hHeader]
    simp

theorem not_mem_kinds (name : Identifier) :
    name.text ∉ TypeKind.keywords :=
  name.not_mem_of_subset fun _ hw =>
    mem_headWords_of_mem
      (Or.inr (Or.inl (List.mem_append_left _ hw)))

/- The line of a property is no header of a type. -/
theorem reader_property
    {before : Option Char}
    (hStart : atWordStart before = true)
    (d : PropertyDraft)
    (u : Text) :
    TypeHeader.reader before
        (d.access.keyword ++ ' ' :: d.tail ++ u) =
      none := by
  have hWords :
      ∀ w ∈ [] ++ [d.type.text, d.name.text], IsOneWord w := by
    simp [d.type.isOneWord, d.name.isOneWord]
  have hBlanks : ∀ c ∈ [' '], isBlank c = true := by
    decide
  have hSign : isWord '\x7b' = false ∧ isBlank '\x7b' = false := by
    decide
  have h :=
    TypeHeader.reader_member hStart d.access hWords
      (not_mem_kinds d.type) hBlanks hSign
      (" get; set; \x7d".toList ++ u)
  rw [← h, PropertyDraft.tail]
  simp

/- Nor is the signature of a method. -/
theorem reader_method
    {before : Option Char}
    (hStart : atWordStart before = true)
    (d : MethodDraft)
    (u : Text) :
    TypeHeader.reader before (d.signature ++ u) = none := by
  have hBlanks : ∀ c ∈ ([] : Text), isBlank c = true := by
    simp
  have hSign : isWord '(' = false ∧ isBlank '(' = false := by
    decide
  have h :=
    TypeHeader.reader_member hStart d.access
      d.isOneWord_of_mem (not_mem_kinds d.returnType) hBlanks
      hSign (d.parameterText ++ ')' :: u)
  rw [← h, MethodDraft.signature]
  simp

/- So all lines of members are passed over. -/
theorem sights_members
    (ms : List MemberDraft)
    (line : Nat)
    (u : Text) :
    Text.sights TypeHeader.reader (some '\n') line
        (MemberDraft.text ms ++ u) =
      Text.sights TypeHeader.reader (some '\n')
        (line + (ms.flatMap MemberDraft.lines).length) u := by
  have hStart : atWordStart (some '\n') = true := by decide
  induction ms generalizing line with
  | nil => rfl
  | cons m ms ih =>
      rw [List.flatMap_cons, List.length_append, ← Nat.add_assoc]
      cases m with
      | property d =>
          rw [MemberDraft.text_property, List.append_assoc,
            List.cons_append,
            Text.sights_of_unread_line TypeHeader.heeds
              (d.quiet_tail areHeadWords_access)
              d.newline_not_mem_tail (reader_property hStart d _),
            ih]
          rfl
      | method d =>
          rw [MemberDraft.text_method, List.append_assoc,
            List.append_assoc, List.cons_append,
            MemberDraft.sights_of_unread_method TypeHeader.heeds
              (reader_method hStart d),
            ih]
          rfl

------------------------------------------------------------
-- Types
------------------------------------------------------------

/- What stands behind the opening brace of a type. -/
theorem render_cons
    (d : TypeDraft)
    (ds : List TypeDraft) :
    render (d :: ds) =
      d.header ++ ['\n', '\x7b'] ++
        ('\n' :: MemberDraft.text d.members ++
          '\x7d' :: '\n' :: render ds) := by
  rw [render, List.flatMap_cons, Text.ofLines_append, lines,
    Text.ofLines_append, Text.ofLines_append]
  simp [MemberDraft.text, render, Text.ofLines, Text.line]

/- The type that is found with the header of a draft. -/
theorem ofHeader_draft
    (d : TypeDraft)
    (gap u : Text)
    (line : Nat) :
    TypeDeclaration.ofHeader line
        ⟨gap,
          ⟨d.access, d.modifiers.map Subtype.val, d.kind,
            d.name.text, d.baseList⟩,
          d.header ++ ['\n', '\x7b'],
          '\n' :: MemberDraft.text d.members ++ '\x7d' :: u⟩ =
      d.declared line := by
  have hEnds :
      Text.lineEnds (d.header ++ ['\n', '\x7b']) = 1 := by
    rw [Text.lineEnds_append, d.lineEnds_header]
    rfl
  have hBalanced :
      Text.IsBalanced ('\n' :: MemberDraft.text d.members) := by
    have hNewline : Text.IsBalanced ['\n'] :=
      Text.isBalanced_of_not_mem (by decide) (by decide)
    exact hNewline.append (MemberDraft.isBalanced_text d.members)
  rw [TypeDeclaration.ofHeader]
  dsimp only
  rw [hEnds, Text.block?_of_isBalanced hBalanced,
    d.ofText_baseList]
  dsimp only
  rw [Members.ofBody_text d.distinct]
  rfl

/-
  Types are found on the lines where they stand, one behind
  the block of the other.
-/
theorem sights_render
    {before : Option Char}
    (hStart : atWordStart before = true)
    (ds : List TypeDraft)
    (line : Nat) :
    (Text.sights TypeHeader.reader before line
        (render ds)).map
          (fun (n, header) =>
            TypeDeclaration.ofHeader n header) =
      declaredFrom line ds := by
  induction ds generalizing before line with
  | nil => rfl
  | cons d ds ih =>
      have hHeader : d.header ++ ['\n', '\x7b'] ≠ [] := by
        simp
      have hEnds :
          Text.lineEnds (d.header ++ ['\n', '\x7b']) = 1 := by
        rw [Text.lineEnds_append, d.lineEnds_header]
        rfl
      have hBrace : Text.Quiet Access.keywords ['\x7d'] := by
        decide
      rw [render_cons,
        Text.sights_of_found hHeader (d.reader_header hStart _),
        List.map_cons]
      dsimp only
      rw [ofHeader_draft, hEnds, List.cons_append,
        MemberDraft.sights_newline TypeHeader.heeds,
        sights_members]
      have hNewline : isWord '\n' = false := by decide
      have hLines :
          line + 1 + 1 +
              (d.members.flatMap MemberDraft.lines).length +
              Text.lineEnds (['\x7d'] ++ ['\n']) =
            line + d.lines.length := by
        have hOne : Text.lineEnds (['\x7d'] ++ ['\n']) = 1 := rfl
        rw [hOne, lines, List.length_append, List.length_append]
        simp only [List.length_cons, List.length_nil]
        omega
      rw [← List.singleton_append (x := '\x7d'),
        Text.sights_of_quiet TypeHeader.heeds hNewline hBrace,
        hLines, ih (by decide)]
      rfl

end TypeDraft

------------------------------------------------------------
-- Namespaces
------------------------------------------------------------

/- No line of a member names a namespace. -/
theorem MemberDraft.quiet_of_mem_lines
    (m : MemberDraft) :
    ∀ l ∈ m.lines, Text.Quiet ["namespace".toList] l := by
  have hws := areHeadWords_namespace
  have hAccess :
      ∀ a : Access, a.keyword ∉ ["namespace".toList] := by
    intro a
    cases a <;> decide
  cases m with
  | property d =>
      rw [lines, List.forall_mem_singleton, d.line_eq]
      exact Text.quiet_keyword d.access.isOneWord
        (hAccess d.access) (d.quiet_tail hws)
  | method d =>
      rw [lines, MethodDraft.lines, List.forall_mem_cons, d.signature_eq]
      exact ⟨Text.quiet_keyword d.access.isOneWord
        (hAccess d.access) (d.quiet_tail hws), by decide⟩

namespace TypeDraft

theorem quiet_bases
    {ws : List Text}
    (hws : AreHeadWords ws)
    (d : TypeDraft) :
    Text.Quiet ws (':' :: ' ' :: d.baseList) := by
  have hList : Text.Quiet ws d.baseList := by
    apply Text.quiet_join hws.nil_not_mem
    intro w hw
    rcases List.mem_append.mp hw with hw | hw
    · rw [Option.mem_toList, Option.map_eq_some_iff] at hw
      rcases hw with ⟨name, -, rfl⟩
      exact hws.quiet_name name.val
    · rcases List.mem_map.mp hw with ⟨name, -, rfl⟩
      exact hws.quiet_name name.val
  have hSpace : Text.Quiet ws (' ' :: d.baseList) :=
    hws.quiet_nil.append_cons hList (by decide)
  exact hws.quiet_nil.append_cons hSpace (by decide)

/- No header of a type does. -/
theorem quiet_header (d : TypeDraft) :
    Text.Quiet ["namespace".toList] d.header := by
  have hws := areHeadWords_namespace
  have hModifiers :
      ∀ w ∈ TypeHeader.modifierWords,
        w ∉ ["namespace".toList] := by
    decide
  have hWords :
      ∀ w ∈ d.words,
        IsOneWord w ∧ w ∉ ["namespace".toList] := by
    intro w hw
    refine ⟨d.isOneWord_of_mem_words w hw, ?_⟩
    rcases List.mem_append.mp hw with hw | hw
    · rcases List.mem_map.mp hw with ⟨m, -, rfl⟩
      exact hModifiers m.val m.property
    · simp only [List.mem_cons, List.not_mem_nil, or_false]
        at hw
      rcases hw with rfl | rfl
      · cases d.kind <;> decide
      · exact hws.name_not_mem d.name
  have hAccess : d.access.keyword ∉ ["namespace".toList] := by
    cases d.access <;> decide
  have hFront :
      ∀ t, Text.Quiet ["namespace".toList] t →
        Text.Quiet ["namespace".toList]
          (d.access.keyword ++ Text.spaced d.words ++
            ' ' :: t) := by
    intro t ht
    have hSpace : isWord ' ' = false := by decide
    have hRest :=
      Text.quiet_spaced hWords hws.nil_not_mem hSpace ht
    have hNil : d.words ≠ [] := by
      simp [words]
    rcases List.exists_cons_of_ne_nil hNil with ⟨w, ws, hCons⟩
    rw [hCons, Text.spaced_cons, List.cons_append] at hRest
    rw [hCons, Text.spaced_cons, List.append_assoc,
      List.cons_append]
    exact Text.quiet_keyword d.access.isOneWord hAccess hRest
  rw [header, baseText]
  split_ifs
  · rw [List.append_nil]
    exact Text.quiet_of_append_cons (by decide)
      (hFront [] hws.quiet_nil)
  · exact hFront _ (d.quiet_bases hws)

/- So no line of a type does. -/
theorem quiet_of_mem_lines
    (d : TypeDraft) :
    ∀ l ∈ d.lines, Text.Quiet ["namespace".toList] l := by
  have hBraces :
      ∀ l ∈ [['\x7b'], ['\x7d']],
        Text.Quiet ["namespace".toList] l := by
    decide
  intro l hl
  simp only [lines, List.cons_append, List.nil_append,
    List.mem_cons, List.mem_append, List.not_mem_nil,
    or_false, List.mem_flatMap] at hl
  rcases hl with rfl | rfl | ⟨m, -, hl⟩ | rfl
  · exact d.quiet_header
  · exact hBraces _ (by simp)
  · exact m.quiet_of_mem_lines l hl
  · exact hBraces _ (by simp)

end TypeDraft

/- Namespaces are looked for at their keyword. -/
theorem NamespaceName.heeds :
    reader.Heeds ["namespace".toList] := by
  intro before t v x h
  simp only [reader, Option.bind_eq_bind,
    Option.bind_eq_some_iff, Prod.exists] at h
  rcases h with
    ⟨rest, hAfter, blanks, u, hBlanks, _, _, -, hResult⟩
  split_ifs at hResult with hStart
  refine ⟨hStart, ?_⟩
  have hOne : IsOneWord "namespace".toList :=
    isOneWord_of_all (by decide)
  have hBlank : startsBlank (rest.takeWhile isBlank) = true := by
    rw [Text.run?] at hBlanks
    split_ifs at hBlanks with hEmpty
    cases hTake : rest.takeWhile isBlank with
    | nil => simp [hTake] at hEmpty
    | cons c cs =>
        have hMem : c ∈ rest.takeWhile isBlank := by
          rw [hTake]
          exact List.mem_cons_self
        have hc : isBlank c = true := List.mem_takeWhile_imp hMem
        exact hc
  rcases startsBlank_of_takeWhile hBlank with ⟨c, v, rfl, hc⟩
  rw [Text.eq_append_of_after? hAfter,
    Text.takeWhile_append_cons (isWord_of_isBlank hc),
    List.takeWhile_eq_self_iff.mpr hOne.word]
  exact List.mem_singleton_self _

------------------------------------------------------------
-- Files
------------------------------------------------------------

/-
  Extraction undoes rendering: from the text of types, they
  are read with all their members, each on its line.
-/
theorem SourceFile.ofText_render
    (path : Text)
    (ds : List TypeDraft) :
    ofText path (TypeDraft.render ds) =
      ⟨Text.replaceChar '\\' '/' path, none,
        TypeDraft.declaredFrom 1 ds⟩ := by
  have hScope :
      (TypeDraft.render ds).findFirst? NamespaceName.reader =
        none := by
    apply Text.findFirst?_eq_none
    apply Text.sights_ofLines_of_quiet NamespaceName.heeds
    intro l hl
    rcases List.mem_flatMap.mp hl with ⟨d, -, hl⟩
    exact d.quiet_of_mem_lines l hl
  have hTypes :
      TypeDeclaration.all (TypeDraft.render ds) =
        TypeDraft.declaredFrom 1 ds := by
    rw [TypeDeclaration.all,
      Text.map_numbered TypeDeclaration.ofHeader fun _ _ => rfl]
    exact TypeDraft.sights_render (by decide) ds 1
  rw [ofText, hScope, hTypes]
  rfl

end SourceDocs
