import SourceDocs.Proofs.Declaration.NameLists

/-
  Members, extracted as they were written down.

  The reader of methods passes over the lines of properties,
  and the reader of properties over those of methods. So
  each finds its members, on the lines where they stand.

  Key definitions include:
    * `SourceDocs.MemberDraft.text`

  Main results:
    * `SourceDocs.MemberDraft.sights_methods`
    * `SourceDocs.MemberDraft.sights_properties`
-/

------------------------------------------------------------
-- Lines
------------------------------------------------------------

namespace SourceDocs

namespace Text

variable {α : Type}
variable {read : Reader α}
variable {before : Option Char}
variable {line : Nat}

theorem ofLines_cons (l : Text) (ls : List Text) :
    ofLines (l :: ls) = l ++ '\n' :: ofLines ls := by
  simp [ofLines, Text.line]

theorem ofLines_append (ls ms : List Text) :
    ofLines (ls ++ ms) = ofLines ls ++ ofLines ms :=
  List.flatMap_append

/- Words between a keyword and the end of a line. -/
theorem quiet_spaced
    {ws vs : List Text}
    {t : Text}
    (hvs : ∀ v ∈ vs, IsOneWord v ∧ v ∉ ws)
    (hNil : [] ∉ ws)
    {sign : Char}
    (hSign : isWord sign = false)
    (ht : Quiet ws t) :
    Quiet ws (spaced vs ++ sign :: t) := by
  have hSpace : isWord ' ' = false := by decide
  have hEmpty : Quiet ws [] := by
    intro w hw
    rw [List.mem_singleton.mp hw]
    exact hNil
  induction vs with
  | nil => exact hEmpty.append_cons ht hSign
  | cons v vs ih =>
      rcases hvs v List.mem_cons_self with ⟨hOne, hNot⟩
      have hRest := ih fun w hw => hvs w (List.mem_cons_of_mem v hw)
      have hWord := quiet_of_word hOne.word hNot
      rw [spaced_cons, List.cons_append, List.append_assoc]
      refine Quiet.append_cons (t := []) hEmpty ?_ hSpace
      cases vs with
      | nil => exact hWord.append_cons ht hSign
      | cons v' vs =>
          rw [spaced_cons, List.cons_append] at hRest ⊢
          have hTail :
              Quiet ws (v' ++ spaced vs ++ sign :: t) := by
            intro w hw
            apply hRest
            have hRuns :=
              wordRuns_append_cons hSpace []
                (v' ++ spaced vs ++ sign :: t)
            rw [List.nil_append] at hRuns
            rw [hRuns]
            exact List.mem_append_right _ hw
          exact hWord.append_cons hTail hSpace

/- Texts in a list, with a comma and a space between them. -/
theorem quiet_join
    {ws ts : List Text}
    (hNil : [] ∉ ws)
    (hts : ∀ t ∈ ts, Quiet ws t) :
    Quiet ws (join separator ts) := by
  have hEmpty : Quiet ws [] := by
    intro w hw
    rw [List.mem_singleton.mp hw]
    exact hNil
  induction ts with
  | nil => exact hEmpty
  | cons t ts ih =>
      rw [List.forall_mem_cons] at hts
      cases ts with
      | nil =>
          rw [join, List.intercalate_singleton]
          exact hts.1
      | cons t' ts =>
          have hText :
              join separator (t :: t' :: ts) =
                t ++ ',' :: ([] ++ ' ' ::
                  join separator (t' :: ts)) := by
            rw [join_cons_cons, List.append_assoc]
            rfl
          rw [hText]
          exact hts.1.append_cons
            (hEmpty.append_cons (ih hts.2) (by decide))
            (by decide)

theorem quiet_of_cons_space
    {ws : List Text}
    {t : Text}
    (h : Quiet ws (' ' :: t)) : Quiet ws t := by
  have hRuns :=
    wordRuns_append_cons (c := ' ') (by decide) [] t
  rw [List.nil_append] at hRuns
  intro w hw
  apply h
  rw [hRuns]
  exact List.mem_append_right _ hw

theorem quiet_of_append_cons
    {ws : List Text}
    {t u : Text}
    {c : Char}
    (hSign : isWord c = false)
    (h : Quiet ws (t ++ c :: u)) : Quiet ws t := by
  intro w hw
  apply h
  rw [wordRuns_append_cons hSign]
  exact List.mem_append_left _ hw

/- A keyword in front of words. -/
theorem quiet_keyword
    {ws : List Text}
    {w t : Text}
    (hOne : IsOneWord w)
    (hNot : w ∉ ws)
    (h : Quiet ws (' ' :: t)) : Quiet ws (w ++ ' ' :: t) :=
  (quiet_of_word hOne.word hNot).append_cons
    (quiet_of_cons_space h) (by decide)

/- A line that starts with an access keyword but is not read. -/
theorem sights_of_unread_line
    {a : Access}
    {x u : Text}
    (hHeeds : read.Heeds Access.keywords)
    (hQuiet : Quiet Access.keywords (' ' :: x))
    (hLine : '\n' ∉ x)
    (hNone :
      read before (a.keyword ++ ' ' :: x ++ '\n' :: u) = none) :
    sights read before line
        (a.keyword ++ ' ' :: x ++ '\n' :: u) =
      sights read (some '\n') (line + 1) u := by
  rcases List.exists_cons_of_ne_nil a.isOneWord.ne_nil with
    ⟨c, w, hKeyword⟩
  have hText :
      a.keyword ++ ' ' :: x ++ '\n' :: u =
        c :: (w ++ ' ' :: x ++ '\n' :: u) := by
    rw [hKeyword]
    rfl
  have hWord := a.isOneWord.word
  have hRuns :
      wordRuns (a.keyword ++ ' ' :: x) =
        [a.keyword] ++ wordRuns x := by
    rw [wordRuns_append_cons (by decide), wordRuns_of_word hWord]
  have hFirst : isWord c = true := hWord c (by simp [hKeyword])
  rw [hText] at hNone ⊢
  rw [sights_of_unread hHeeds (by decide) hFirst hNone]
  · have hOne : lineEnds (c :: (w ++ ' ' :: x ++ ['\n'])) = 1 := by
      have hEq :
          c :: (w ++ ' ' :: x ++ ['\n']) =
            (a.keyword ++ ' ' :: x) ++ ['\n'] := by
        rw [hKeyword]
        rfl
      rw [hEq, lineEnds_append, lineEnds_eq_zero]
      · rfl
      · have hNot := a.isOneWord.not_mem (c := '\n') (by decide)
        simp [hNot, hLine]
    rw [hOne]
  · have hEq : c :: (w ++ ' ' :: x) = a.keyword ++ ' ' :: x := by
      rw [hKeyword]
      rfl
    rw [hEq, hRuns]
    exact quiet_of_cons_space hQuiet

end Text

------------------------------------------------------------
-- Lines Of Members
------------------------------------------------------------

/-
  Some words of headers, none of which stands in a line
  behind the words in front.
-/
structure AreHeadWords (ws : List Text) : Prop where
  head : ∀ w ∈ ws, w ∈ headWords
  async : "async".toList ∉ ws

namespace AreHeadWords

variable {ws : List Text}

theorem nil_not_mem
    (hws : AreHeadWords ws) : [] ∉ ws :=
  fun hMem =>
    (isOneWord_of_mem_headWords (hws.head _ hMem)).ne_nil rfl

theorem name_not_mem
    (hws : AreHeadWords ws)
    (name : Identifier) : name.text ∉ ws :=
  name.not_mem_of_subset hws.head

theorem quiet_nil
    (hws : AreHeadWords ws) : Text.Quiet ws [] := by
  intro w hw
  rw [List.mem_singleton.mp hw]
  exact hws.nil_not_mem

theorem quiet_name
    (hws : AreHeadWords ws)
    (name : Identifier) : Text.Quiet ws name.text :=
  Text.quiet_of_word name.isOneWord.word (hws.name_not_mem name)

/- Signs and other words are quiet. -/
theorem quiet_of_all
    (hws : AreHeadWords ws)
    {t : Text}
    (ht : Text.Quiet headWords t) : Text.Quiet ws t :=
  fun w hw hMem => ht w hw (hws.head w hMem)

end AreHeadWords

theorem areHeadWords_access : AreHeadWords Access.keywords :=
  ⟨fun _ hw => mem_headWords_of_mem (Or.inl hw), by decide⟩

theorem areHeadWords_namespace :
    AreHeadWords ["namespace".toList] :=
  ⟨fun w hw => by
    rw [List.mem_singleton.mp hw]
    exact List.mem_cons_self,
   by decide⟩

namespace PropertyDraft

/- The line of a property behind its access keyword. -/
def tail (d : PropertyDraft) : Text :=
  d.type.text ++ ' ' :: d.name.text ++
    " \x7b get; set; \x7d".toList

theorem line_eq (d : PropertyDraft) :
    d.line = d.access.keyword ++ ' ' :: d.tail := by
  simp [line, tail]

theorem quiet_tail
    {ws : List Text}
    (hws : AreHeadWords ws)
    (d : PropertyDraft) : Text.Quiet ws (' ' :: d.tail) := by
  have hRest : Text.Quiet ws "\x7b get; set; \x7d".toList :=
    hws.quiet_of_all (by decide)
  have hWords :
      ∀ w ∈ [d.type.text, d.name.text],
        IsOneWord w ∧ w ∉ ws := by
    simp [d.type.isOneWord, d.name.isOneWord,
      hws.name_not_mem d.type, hws.name_not_mem d.name]
  have hSpace : isWord ' ' = false := by decide
  have h :=
    Text.quiet_spaced hWords hws.nil_not_mem hSpace hRest
  have hText :
      Text.spaced [d.type.text, d.name.text] ++
          ' ' :: "\x7b get; set; \x7d".toList =
        ' ' :: d.tail := by
    simp [tail]
  rwa [hText] at h

theorem newline_not_mem_tail (d : PropertyDraft) :
    '\n' ∉ d.tail := by
  have hSign : isWord '\n' = false := by decide
  have hRest : '\n' ∉ " \x7b get; set; \x7d".toList := by decide
  rw [tail]
  simp only [List.mem_append, List.mem_cons, not_or]
  exact ⟨⟨d.type.isOneWord.not_mem hSign, by decide,
    d.name.isOneWord.not_mem hSign⟩, hRest⟩

end PropertyDraft

namespace MethodDraft

/- The line of a signature behind its access keyword. -/
def tail (d : MethodDraft) : Text :=
  (Text.spaced
      (d.modifiers ++ [d.returnType.text, d.name.text])).tail ++
    '(' :: d.parameterText ++ [')']

theorem signature_eq (d : MethodDraft) :
    d.signature = d.access.keyword ++ ' ' :: d.tail := by
  rw [signature, tail]
  cases d.modifiers <;> simp

theorem quiet_parameterText
    {ws : List Text}
    (hws : AreHeadWords ws)
    (d : MethodDraft) : Text.Quiet ws d.parameterText := by
  apply Text.quiet_join hws.nil_not_mem
  intro t ht
  rcases List.mem_map.mp ht with ⟨⟨type, name⟩, -, rfl⟩
  exact (hws.quiet_name type).append_cons (hws.quiet_name name)
    (by decide)

theorem quiet_tail
    {ws : List Text}
    (hws : AreHeadWords ws)
    (d : MethodDraft) : Text.Quiet ws (' ' :: d.tail) := by
  have hWords :
      ∀ w ∈ d.modifiers ++ [d.returnType.text, d.name.text],
        IsOneWord w ∧ w ∉ ws := by
    intro w hw
    refine ⟨d.isOneWord_of_mem w hw, ?_⟩
    rcases List.mem_append.mp hw with hw | hw
    · rw [modifiers] at hw
      split_ifs at hw
      · rw [List.mem_singleton.mp hw]
        exact hws.async
      · cases hw
    · simp only [List.mem_cons, List.not_mem_nil, or_false]
        at hw
      rcases hw with rfl | rfl
      · exact hws.name_not_mem d.returnType
      · exact hws.name_not_mem d.name
  have hOpen : isWord '(' = false := by decide
  have hClose : isWord ')' = false := by decide
  have hList : Text.Quiet ws (d.parameterText ++ [')']) :=
    (d.quiet_parameterText hws).append_cons hws.quiet_nil hClose
  have h := Text.quiet_spaced hWords hws.nil_not_mem hOpen hList
  have hText :
      Text.spaced
            (d.modifiers ++ [d.returnType.text, d.name.text]) ++
          '(' :: (d.parameterText ++ [')']) =
        ' ' :: d.tail := by
    rw [tail]
    cases d.modifiers <;> simp
  rwa [hText] at h

theorem newline_not_mem_tail (d : MethodDraft) :
    '\n' ∉ d.tail := by
  have hSign : isWord '\n' = false := by decide
  have hParameters : '\n' ∉ d.parameterText := by
    intro hMem
    rcases Text.mem_join hMem with hMem | ⟨t, ht, hMem⟩
    · exact absurd hMem (by decide)
    · rcases List.mem_map.mp ht with ⟨⟨type, name⟩, -, rfl⟩
      exact Parameter.not_mem_written type.isOneWord
        name.isOneWord hSign (by decide) hMem
  have hWords :
      '\n' ∉ Text.spaced
        (d.modifiers ++ [d.returnType.text, d.name.text]) := by
    intro hMem
    rcases List.mem_flatMap.mp hMem with ⟨w, hw, hMem⟩
    rcases List.mem_cons.mp hMem with hMem | hMem
    · exact absurd hMem (by decide)
    · exact (d.isOneWord_of_mem w hw).not_mem hSign hMem
  rw [tail]
  simp only [List.mem_append, List.mem_cons, not_or,
    List.not_mem_nil, not_false_eq_true, and_true]
  exact ⟨⟨fun hMem => hWords (List.mem_of_mem_tail hMem),
    by decide, hParameters⟩, by decide⟩

end MethodDraft

------------------------------------------------------------
-- Lines That Are Not Read
------------------------------------------------------------

/- A property is not read as a method. -/
theorem MethodHeader.reader_property
    {before : Option Char}
    (hStart : atWordStart before = true)
    (d : PropertyDraft)
    (u : Text) :
    reader before (d.access.keyword ++ ' ' :: d.tail ++ u) =
      none := by
  have hText :
      d.access.keyword ++ ' ' :: d.tail ++ u =
        d.access.keyword ++
          (Text.spaced [d.type.text, d.name.text] ++ [' '] ++
            '\x7b' :: (" get; set; \x7d".toList ++ u)) := by
    simp [PropertyDraft.tail]
  rw [reader, hText]
  simp only [Option.bind_eq_bind,
    leadingAccess?_keyword hStart, Option.bind_some,
    d.run_isTypeChar]
  rfl

/- A method is not read as a property. -/
theorem PropertyHeader.reader_method
    {before : Option Char}
    (hStart : atWordStart before = true)
    (d : MethodDraft)
    (u : Text) :
    reader before (d.signature ++ u) = none := by
  have hText :
      d.signature ++ u =
        d.access.keyword ++
          (Text.spaced
              (d.modifiers ++ [d.returnType.text, d.name.text]) ++
            '(' :: (d.parameterText ++ ')' :: u)) := by
    rw [MethodDraft.signature]
    simp
  rw [reader, hText]
  simp only [Option.bind_eq_bind,
    leadingAccess?_keyword hStart, Option.bind_some,
    d.run_isTypeChar]
  rfl

------------------------------------------------------------
-- Found Members
------------------------------------------------------------

/- What stands behind a signature. -/
def MethodDraft.blockText : Text :=
  ['\n', '\x7b', '\n', '\x7d']

/- The method that is found with the signature of a draft. -/
theorem Method.ofHeader?_draft
    (d : MethodDraft)
    (gap covered u : Text)
    (line : Nat) :
    ofHeader? line
        ⟨gap,
          ⟨d.access,
            ⟨d.modifiers, d.returnType.text, d.name.text⟩,
            d.parameterText⟩,
          covered, MethodDraft.blockText ++ u⟩ =
      some (d.declared line) := by
  have hKind :
      TypeKind.reserved.contains d.returnType.text = false := by
    simpa using d.returnType.not_mem_reserved
  have hBody :
      bodyAfter (MethodDraft.blockText ++ u) = ['\n'] := by
    simp [bodyAfter, MethodDraft.blockText, bodyStart?,
      Text.block?, Text.closeAt?]
  have hAsync :
      d.modifiers.contains "async".toList = d.isAsync := by
    rw [MethodDraft.modifiers]
    cases d.isAsync <;> decide
  have hCalls : CallEdge.all ['\n'] = [] := by
    decide
  rw [ofHeader?]
  dsimp only
  rw [hKind, if_neg (by simp), hBody, hCalls, hAsync,
    d.trim_parameterText, d.listOfText_parameterText]
  rfl

theorem isLower_of_isAsciiUpper
    {c : Char}
    (hc : isAsciiUpper c = true) : isLower c = false := by
  simp only [isAsciiUpper, Bool.and_eq_true, decide_eq_true_eq,
    Char.le_def, UInt32.le_iff_toNat_le] at hc
  have hAscii : isAscii c = true := by
    simp only [isAscii, decide_eq_true_eq, Char.toNat]
    exact Nat.lt_of_le_of_lt hc.2 (by decide)
  have hNot : isAsciiLower c = false := by
    simp only [isAsciiLower, Bool.and_eq_false_iff,
      decide_eq_false_iff_not, Char.le_def,
      UInt32.le_iff_toNat_le, Nat.not_le]
    exact Or.inl (Nat.lt_of_le_of_lt hc.2 (by decide))
  rw [isLower, if_pos hAscii, hNot]

/- The property that is found with the head of a draft. -/
theorem Property.ofHeader?_draft
    (d : PropertyDraft)
    (line : Nat) :
    ofHeader? line
        ⟨d.access, ⟨[], d.type.text, d.name.text⟩⟩ =
      some (d.declared line) := by
  have hOne := d.type.isOneWord
  have hNot := d.type.not_mem_reserved
  have hKind :
      (Text.words d.type.text).any TypeKind.reserved.contains =
        false := by
    rw [hOne.words_eq]
    simpa using hNot
  have hCapital : d.name.text.head?.any isLower = false := by
    have hUpper := d.capital
    cases hHead : d.name.text.head? with
    | none => rfl
    | some c =>
        rw [hHead] at hUpper
        exact isLower_of_isAsciiUpper hUpper
  rw [ofHeader?]
  dsimp only
  rw [hKind, hCapital, if_neg (by simp)]
  rfl

------------------------------------------------------------
-- All Members
------------------------------------------------------------

namespace MemberDraft

/- The text of members. -/
def text (ms : List MemberDraft) : Text :=
  Text.ofLines (ms.flatMap lines)

theorem text_property
    (d : PropertyDraft)
    (ms : List MemberDraft) :
    text (.property d :: ms) =
      d.access.keyword ++ ' ' :: d.tail ++ '\n' :: text ms := by
  rw [text, List.flatMap_cons, lines, List.singleton_append,
    Text.ofLines_cons, d.line_eq]
  rfl

theorem text_method
    (d : MethodDraft)
    (ms : List MemberDraft) :
    text (.method d :: ms) =
      d.signature ++
        (MethodDraft.blockText ++ '\n' :: text ms) := by
  rw [text, List.flatMap_cons, lines, MethodDraft.lines,
    Text.ofLines_append, Text.ofLines_cons, Text.ofLines_cons,
    Text.ofLines_cons]
  simp [MethodDraft.blockText, text, Text.ofLines]

theorem lineEnds_signature (d : MethodDraft) :
    Text.lineEnds d.signature = 0 := by
  apply Text.lineEnds_eq_zero
  rw [d.signature_eq]
  have hNot := d.access.isOneWord.not_mem (c := '\n') (by decide)
  simp [hNot, d.newline_not_mem_tail]

theorem signature_ne_nil (d : MethodDraft) :
    d.signature ≠ [] := by
  rw [d.signature_eq]
  simp

/- Nothing is read behind a signature. -/
theorem sights_block
    {α : Type}
    {read : Reader α}
    {before : Option Char}
    {line : Nat}
    (hHeeds : read.Heeds Access.keywords)
    (u : Text) :
    Text.sights read before line
        (MethodDraft.blockText ++ '\n' :: u) =
      Text.sights read (some '\n') (line + 3) u := by
  have hQuiet :
      Text.Quiet Access.keywords MethodDraft.blockText := by
    decide
  rw [Text.sights_of_quiet hHeeds (by decide) hQuiet]
  rfl

/- A method whose signature is not read is passed over. -/
theorem sights_of_unread_method
    {α : Type}
    {read : Reader α}
    {d : MethodDraft}
    (hHeeds : read.Heeds Access.keywords)
    (hNone : ∀ u, read (some '\n') (d.signature ++ u) = none)
    (line : Nat)
    (u : Text) :
    Text.sights read (some '\n') line
        (d.signature ++ (MethodDraft.blockText ++ '\n' :: u)) =
      Text.sights read (some '\n') (line + 3) u := by
  have hText :
      d.signature ++ (MethodDraft.blockText ++ '\n' :: u) =
        d.access.keyword ++ ' ' :: d.tail ++
          '\n' :: (['\x7b', '\n', '\x7d'] ++ '\n' :: u) := by
    rw [d.signature_eq]
    rfl
  have hQuiet :
      Text.Quiet Access.keywords ['\x7b', '\n', '\x7d'] := by
    decide
  rw [hText,
    Text.sights_of_unread_line hHeeds
      (d.quiet_tail areHeadWords_access) d.newline_not_mem_tail
      (hText ▸ hNone _),
    Text.sights_of_quiet hHeeds (by decide) hQuiet]
  rfl

/- Methods are found on the lines where they stand. -/
theorem sights_methods
    (ms : List MemberDraft)
    (line : Nat) :
    (Text.sights MethodHeader.reader (some '\n') line
        (text ms)).filterMap
          (fun (n, header) => Method.ofHeader? n header) =
      methodsFrom line ms := by
  have hStart : atWordStart (some '\n') = true := by decide
  induction ms generalizing line with
  | nil => rfl
  | cons m ms ih =>
      cases m with
      | property d =>
          rw [text_property,
            Text.sights_of_unread_line MethodHeader.heeds
              (d.quiet_tail areHeadWords_access)
              d.newline_not_mem_tail
              (MethodHeader.reader_property hStart d _),
            ih]
          rfl
      | method d =>
          rw [text_method,
            Text.sights_of_found (signature_ne_nil d)
              (MethodHeader.reader_draft hStart d _),
            List.filterMap_cons]
          dsimp only
          rw [Method.ofHeader?_draft, lineEnds_signature,
            sights_block MethodHeader.heeds, ih]
          rfl

/- The text of a property goes on behind its brace. -/
theorem text_property_head
    (d : PropertyDraft)
    (ms : List MemberDraft) :
    text (.property d :: ms) =
      (d.access.keyword ++
          Text.spaced [d.type.text, d.name.text] ++
        [' ', '\x7b']) ++
        (" get; set; \x7d".toList ++ '\n' :: text ms) := by
  rw [text_property, PropertyDraft.tail]
  simp

theorem lineEnds_property_head (d : PropertyDraft) :
    Text.lineEnds
        (d.access.keyword ++
            Text.spaced [d.type.text, d.name.text] ++
          [' ', '\x7b']) =
      0 := by
  apply Text.lineEnds_eq_zero
  have hSign : isWord '\n' = false := by decide
  simp [d.access.isOneWord.not_mem hSign,
    d.type.isOneWord.not_mem hSign,
    d.name.isOneWord.not_mem hSign]

/- Nothing is read behind the brace of a property. -/
theorem sights_accessors
    {α : Type}
    {read : Reader α}
    {before : Option Char}
    {line : Nat}
    (hHeeds : read.Heeds Access.keywords)
    (u : Text) :
    Text.sights read before line
        (" get; set; \x7d".toList ++ '\n' :: u) =
      Text.sights read (some '\n') (line + 1) u := by
  have hQuiet :
      Text.Quiet Access.keywords " get; set; \x7d".toList := by
    decide
  rw [Text.sights_of_quiet hHeeds (by decide) hQuiet]
  rfl

/- Properties are found on the lines where they stand, too. -/
theorem sights_properties
    (ms : List MemberDraft)
    (line : Nat) :
    (Text.sights PropertyHeader.reader (some '\n') line
        (text ms)).filterMap
          (fun (n, header) =>
            Property.ofHeader? n header.value) =
      propertiesFrom line ms := by
  have hStart : atWordStart (some '\n') = true := by decide
  induction ms generalizing line with
  | nil => rfl
  | cons m ms ih =>
      cases m with
      | method d =>
          rw [text_method,
            sights_of_unread_method PropertyHeader.heeds
              (PropertyHeader.reader_method hStart d),
            ih]
          rfl
      | property d =>
          rw [text_property_head,
            Text.sights_of_found (by simp)
              (PropertyHeader.reader_draft hStart d _),
            List.filterMap_cons]
          dsimp only
          rw [Property.ofHeader?_draft, lineEnds_property_head,
            sights_accessors PropertyHeader.heeds, ih]
          rfl

end MemberDraft

end SourceDocs
