import SourceDocs.Proofs.Declaration.Drafts
import SourceDocs.Proofs.Text.Sights

/-
  Reading the headers of declarations.

  A header starts with an access keyword, at the start of a
  word, and has a blank behind it. What stands in the line
  of a draft is read back word by word.

  Main results:
    * `SourceDocs.MemberHead.ofStretch?_spaced`
    * `SourceDocs.TypeHeader.reader_draft`
    * `SourceDocs.MethodHeader.reader_draft`
    * `SourceDocs.PropertyHeader.reader_draft`
-/

------------------------------------------------------------
-- Access Keywords
------------------------------------------------------------

namespace SourceDocs

variable {before : Option Char}

/- A keyword is read if no other one starts like it. -/
theorem leadingKeyword?_of_mem
    {keywords : List Text}
    {w : Text}
    (hw : w ∈ keywords)
    (hApart :
      ∀ v ∈ keywords, v ≠ w → ¬ v <+: w ∧ ¬ w <+: v)
    (t : Text) :
    leadingKeyword? keywords (w ++ t) = some (w, t) := by
  induction keywords with
  | nil => cases hw
  | cons v vs ih =>
      rw [List.forall_mem_cons] at hApart
      rw [leadingKeyword?, List.findSome?_cons]
      by_cases hEq : v = w
      · rw [hEq, Text.after?_append]
        rfl
      · rcases hApart.1 hEq with ⟨hLeft, hRight⟩
        rw [Text.after?_eq_none hLeft hRight]
        have hw' : w ∈ vs :=
          (List.mem_cons.mp hw).resolve_left (Ne.symm hEq)
        exact ih hw' hApart.2

/- The keyword of an access level is read. -/
theorem leadingAccess?_keyword
    (hStart : atWordStart before = true)
    (a : Access)
    (t : Text) :
    leadingAccess? before (a.keyword ++ t) =
      some (a.keyword, t) := by
  rw [leadingAccess?, if_pos hStart]
  apply leadingKeyword?_of_mem a.keyword_mem
  cases a <;> decide

/- What is read is a keyword, at the start of a word. -/
theorem of_leadingAccess?
    {t word rest : Text}
    (h : leadingAccess? before t = some (word, rest)) :
    atWordStart before = true ∧ word ∈ Access.keywords ∧
      t = word ++ rest := by
  rw [leadingAccess?] at h
  split_ifs at h with hStart
  rw [leadingKeyword?] at h
  rcases List.exists_of_findSome?_eq_some h with
    ⟨keyword, hKeyword, hAfter⟩
  rw [Option.map_eq_some_iff] at hAfter
  rcases hAfter with ⟨rest', hAfter, hPair⟩
  cases hPair
  exact ⟨hStart, hKeyword, Text.eq_append_of_after? hAfter⟩

/- A stretch that starts with a blank starts right there. -/
theorem startsBlank_of_takeWhile
    {p : Char → Bool}
    {t : Text}
    (h : startsBlank (t.takeWhile p) = true) :
    ∃ c u, t = c :: u ∧ isBlank c = true := by
  cases t with
  | nil => cases h
  | cons c u =>
      rw [List.takeWhile_cons] at h
      split_ifs at h
      · exact ⟨c, u, rfl, h⟩
      · cases h

/- So a keyword with a blank behind it is the first word. -/
theorem takeWhile_isWord_of_leadingAccess?
    {p : Char → Bool}
    {t word rest : Text}
    (h : leadingAccess? before t = some (word, rest))
    (hBlank : startsBlank (rest.takeWhile p) = true) :
    atWordStart before = true ∧
      t.takeWhile isWord ∈ Access.keywords := by
  rcases of_leadingAccess? h with ⟨hStart, hWord, rfl⟩
  rcases startsBlank_of_takeWhile hBlank with ⟨c, u, rfl, hc⟩
  refine ⟨hStart, ?_⟩
  have hOne := Access.isOneWord_of_mem hWord
  rw [Text.takeWhile_append_cons (isWord_of_isBlank hc),
    List.takeWhile_eq_self_iff.mpr hOne.word]
  exact hWord

------------------------------------------------------------
-- Heads Of Members
------------------------------------------------------------

namespace MemberHead

variable {modifierWords : List Text}

/- Dropping as many words as there are in front drops them. -/
theorem dropWords_spaced
    {ws : List Text}
    (hws : ∀ w ∈ ws, IsOneWord w)
    (u : Text) :
    dropWords ws.length (Text.spaced ws ++ ' ' :: u) =
      Text.trimStart u := by
  have hSpace : isBlank ' ' = true := by decide
  induction ws with
  | nil =>
      rw [List.length_nil, Text.spaced_nil, List.nil_append,
        dropWords, Text.trimStart,
        List.dropWhile_cons_of_pos hSpace]
      rfl
  | cons w ws ih =>
      have hw := hws w List.mem_cons_self
      rw [List.length_cons, Text.spaced_cons, dropWords]
      have hTrim :
          Text.trimStart
              (' ' :: (w ++ Text.spaced ws) ++ ' ' :: u) =
            w ++ (Text.spaced ws ++ ' ' :: u) := by
        rw [Text.trimStart, List.cons_append,
          List.dropWhile_cons_of_pos hSpace, List.append_assoc]
        rcases List.exists_cons_of_ne_nil hw.ne_nil with
          ⟨c, w', rfl⟩
        rw [List.cons_append, List.dropWhile_cons_of_neg]
        simp [hw.blank c List.mem_cons_self]
      have hDrop :
          (w ++ (Text.spaced ws ++ ' ' :: u)).dropWhile
              (!isBlank ·) =
            Text.spaced ws ++ ' ' :: u := by
        refine congrArg Prod.snd
          (Text.run_append (p := (!isBlank ·)) (fun c hc => ?_)
            fun c hc => ?_)
        · simp [hw.blank c hc]
        · cases ws <;>
            · simp only [Text.spaced_nil, Text.spaced_cons,
                List.nil_append, List.cons_append,
                List.head?_cons, Option.some.injEq] at hc
              rw [← hc]
              decide
      rw [hTrim, hDrop,
        ih fun v hv => hws v (List.mem_cons_of_mem w hv)]

/- The type stands behind the modifiers. -/
theorem typeOf?_spaced
    {mods : List Text}
    {type : Text}
    (hMods : ∀ w ∈ mods, w ∈ modifierWords)
    (hWords : ∀ w ∈ mods, IsOneWord w)
    (hType : type ∉ modifierWords)
    (hOne : IsOneWord type) :
    typeOf? modifierWords
        (Text.spaced (mods ++ [type]) ++ [' ']) =
      some (mods, type) := by
  have hFront :
      Text.words (Text.spaced (mods ++ [type]) ++ [' ']) =
        mods ++ [type] := by
    refine Text.words_spaced (fun w hw => ?_) (by decide)
    rcases List.mem_append.mp hw with hw | hw
    · exact ⟨(hWords w hw).ne_nil, (hWords w hw).blank⟩
    · rw [List.mem_singleton.mp hw]
      exact ⟨hOne.ne_nil, hOne.blank⟩
  have hTake :
      (mods ++ [type]).takeWhile modifierWords.contains =
        mods := by
    rw [List.takeWhile_append_of_pos
      (fun w hw => by simpa using hMods w hw),
      List.takeWhile_cons_of_neg (by simpa using hType),
      List.append_nil]
  have hDrop :
      Text.trim
          (dropWords mods.length
            (Text.spaced (mods ++ [type]) ++ [' '])) =
        type := by
    have hEq :
        Text.spaced (mods ++ [type]) ++ [' '] =
          Text.spaced mods ++ ' ' :: (type ++ [' ']) := by
      rw [Text.spaced_append, Text.spaced_cons, Text.spaced_nil,
        List.append_nil, List.append_assoc]
      rfl
    have hStart : Text.trimStart (type ++ [' ']) = type ++ [' '] := by
      rcases List.exists_cons_of_ne_nil hOne.ne_nil with
        ⟨c, w, rfl⟩
      rw [Text.trimStart, List.cons_append,
        List.dropWhile_cons_of_neg]
      simp [hOne.blank c List.mem_cons_self]
    rw [hEq, dropWords_spaced hWords, hStart]
    have hTrim :=
      Text.trim_append (a := []) (b := [' ']) (w := type)
        (by simp) (by decide) hOne.ne_nil
        (fun c hc => hOne.blank c (List.mem_of_mem_head? hc))
        (fun c hc => hOne.blank c (List.mem_of_mem_getLast? hc))
    rwa [List.nil_append] at hTrim
  unfold typeOf?
  dsimp only
  rw [hFront, hTake, hDrop, if_pos (by simp)]

/- A head is read from its words, blanks behind them or not. -/
theorem ofStretch?_spaced
    {mods : List Text}
    {type name blanks : Text}
    (hMods : ∀ w ∈ mods, w ∈ modifierWords)
    (hWords : ∀ w ∈ mods, IsOneWord w)
    (hType : type ∉ modifierWords)
    (hOne : IsOneWord type)
    (hName : IsOneWord name)
    (hBlanks : ∀ c ∈ blanks, isBlank c = true) :
    ofStretch? modifierWords
        (Text.spaced (mods ++ [type, name]) ++ blanks) =
      some ⟨mods, type, name⟩ := by
  let front := Text.spaced (mods ++ [type]) ++ [' ']
  have hParts :
      Text.spaced (mods ++ [type, name]) = front ++ name := by
    have hList :
        mods ++ [type, name] = (mods ++ [type]) ++ [name] := by
      simp
    rw [hList, Text.spaced_append, Text.spaced_cons,
      Text.spaced_nil, List.append_nil]
    exact List.append_cons _ ' ' name
  have hDeclared :
      Text.trimEnd (front ++ name ++ blanks) = front ++ name := by
    apply Text.trimEnd_append hBlanks
    intro c hc
    rw [List.getLast?_append,
      List.getLast?_eq_some_getLast hName.ne_nil,
      Option.some_or, Option.some.injEq] at hc
    rw [← hc]
    exact hName.blank _ (List.getLast_mem hName.ne_nil)
  have hLast :
      ((front ++ name).reverse.takeWhile (!isBlank ·)).reverse =
        name :=
    Text.takeWhile_reverse_append hName.blank _
  have hStarts :
      startsBlank (front ++ name ++ blanks) = true := by
    rw [← hParts]
    cases mods <;> rfl
  have hFront :
      (front ++ name).take
          ((front ++ name).length - name.length) = front := by
    rw [List.length_append, Nat.add_sub_cancel,
      List.take_left]
  have hNameOk : (!name.isEmpty && name.all isWord) = true := by
    simp only [Bool.and_eq_true, Bool.not_eq_true',
      List.isEmpty_eq_false_iff, List.all_eq_true]
    exact ⟨hName.ne_nil, hName.word⟩
  unfold ofStretch?
  dsimp only
  rw [hParts, hDeclared, hLast, hStarts, hFront, Bool.true_and,
    hNameOk, if_pos rfl, typeOf?_spaced hMods hWords hType hOne]
  rfl

end MemberHead

------------------------------------------------------------
-- Members
------------------------------------------------------------

/- A run takes words and the blanks between and behind them. -/
theorem run_spaced
    {p : Char → Bool}
    {ws : List Text}
    {blanks tail : Text}
    (hWord : ∀ c, isWord c = true → p c = true)
    (hBlank : ∀ c, isBlank c = true → p c = true)
    (hws : ∀ w ∈ ws, IsOneWord w)
    (hBlanks : ∀ c ∈ blanks, isBlank c = true)
    (hTail : ∀ c, tail.head? = some c → p c = false) :
    Text.run p (Text.spaced ws ++ blanks ++ tail) =
      (Text.spaced ws ++ blanks, tail) := by
  refine Text.run_append (fun c hc => ?_) hTail
  rcases List.mem_append.mp hc with hc | hc
  · rcases List.mem_flatMap.mp hc with ⟨w, hw, hc⟩
    rcases List.mem_cons.mp hc with rfl | hc
    · exact hBlank ' ' (by decide)
    · exact hWord c ((hws w hw).word c hc)
  · exact hBlank c (hBlanks c hc)

/- The stretch in front of a sign that is in no type. -/
theorem run_isTypeChar_spaced
    {ws : List Text}
    {blanks u : Text}
    {sign : Char}
    (hws : ∀ w ∈ ws, IsOneWord w)
    (hBlanks : ∀ c ∈ blanks, isBlank c = true)
    (hSign : MemberHead.isTypeChar sign = false) :
    Text.run MemberHead.isTypeChar
        (Text.spaced ws ++ blanks ++ sign :: u) =
      (Text.spaced ws ++ blanks, sign :: u) := by
  apply run_spaced _ _ hws hBlanks
  · intro c hc
    cases hc
    exact hSign
  · exact fun c hc => by simp [MemberHead.isTypeChar, hc]
  · exact fun c hc => by simp [MemberHead.isTypeChar, hc]

namespace Identifier

/- A name is none of the words of headers. -/
theorem not_mem_of_subset
    (name : Identifier)
    {ws : List Text}
    (hws : ∀ w ∈ ws, w ∈ headWords) : name.text ∉ ws :=
  fun hMem => name.free (hws _ hMem)

theorem not_mem_reserved
    (name : Identifier) : name.text ∉ TypeKind.reserved :=
  name.not_mem_of_subset fun _ hw =>
    mem_headWords_of_mem (Or.inr (Or.inl hw))

end Identifier

/- The stretch of type and name in the line of a property. -/
theorem PropertyDraft.run_isTypeChar
    (d : PropertyDraft)
    (u : Text) :
    Text.run MemberHead.isTypeChar
        (Text.spaced [d.type.text, d.name.text] ++ [' '] ++
          '\x7b' :: u) =
      (Text.spaced [d.type.text, d.name.text] ++ [' '],
        '\x7b' :: u) :=
  run_isTypeChar_spaced
    (by simp [d.type.isOneWord, d.name.isOneWord])
    (by decide) (by decide)

namespace PropertyHeader

/- Properties are looked for at access keywords. -/
theorem heeds : reader.Heeds Access.keywords := by
  intro before t v x h
  simp only [reader, Option.bind_eq_bind,
    Option.bind_eq_some_iff, Prod.exists] at h
  rcases h with
    ⟨access, rest, hAccess, _, _, head, hHead, -⟩
  rw [MemberHead.ofStretch?] at hHead
  dsimp only at hHead
  split_ifs at hHead with hIf
  simp only [Bool.and_eq_true] at hIf
  exact takeWhile_isWord_of_leadingAccess? hAccess hIf.1.1

/- The line of a property is read up to its brace. -/
theorem reader_draft
    (hStart : atWordStart before = true)
    (d : PropertyDraft)
    (u : Text) :
    reader before
        (d.access.keyword ++
          Text.spaced [d.type.text, d.name.text] ++
          [' ', '\x7b'] ++ u) =
      some
        (⟨d.access, ⟨[], d.type.text, d.name.text⟩⟩,
          d.access.keyword ++
            Text.spaced [d.type.text, d.name.text] ++
            [' ', '\x7b']) := by
  have hHead :
      MemberHead.ofStretch? modifierWords
          (Text.spaced [d.type.text, d.name.text] ++ [' ']) =
        some ⟨[], d.type.text, d.name.text⟩ := by
    have hType : d.type.text ∉ modifierWords :=
      d.type.not_mem_of_subset fun w hw =>
        mem_headWords_of_mem
          (Or.inr (Or.inr (Or.inr (Or.inr hw))))
    have hNone : ∀ w ∈ ([] : List Text), w ∈ modifierWords := by
      simp
    exact MemberHead.ofStretch?_spaced hNone (by simp) hType
      d.type.isOneWord d.name.isOneWord (by decide)
  have hText :
      d.access.keyword ++
          Text.spaced [d.type.text, d.name.text] ++
          [' ', '\x7b'] ++ u =
        d.access.keyword ++
          (Text.spaced [d.type.text, d.name.text] ++ [' '] ++
            '\x7b' :: u) := by
    simp
  rw [reader, hText]
  have hBrace :
      (some '\x7b').filter isTerminator = some '\x7b' := by
    decide
  simp only [Option.bind_eq_bind,
    leadingAccess?_keyword hStart, Option.bind_some,
    d.run_isTypeChar, List.head?_cons, hHead, hBrace]
  simp [Access.ofKeyword_keyword]

end PropertyHeader

namespace MethodDraft

theorem isOneWord_of_mem_modifiers
    (d : MethodDraft) : ∀ w ∈ d.modifiers, IsOneWord w := by
  intro w hw
  rw [modifiers] at hw
  split_ifs at hw
  · rw [List.mem_singleton.mp hw]
    exact isOneWord_of_all (by decide)
  · cases hw

theorem mem_modifierWords
    (d : MethodDraft) :
    ∀ w ∈ d.modifiers, w ∈ MethodHeader.modifierWords := by
  intro w hw
  rw [modifiers] at hw
  split_ifs at hw
  · rw [List.mem_singleton.mp hw]
    decide
  · cases hw

/- The words of a signature. -/
theorem isOneWord_of_mem
    (d : MethodDraft) :
    ∀ w ∈ d.modifiers ++ [d.returnType.text, d.name.text],
      IsOneWord w := by
  intro w hw
  rcases List.mem_append.mp hw with hw | hw
  · exact d.isOneWord_of_mem_modifiers w hw
  · simp only [List.mem_cons, List.not_mem_nil, or_false] at hw
    rcases hw with rfl | rfl
    · exact d.returnType.isOneWord
    · exact d.name.isOneWord

/- The stretch of its words in the line of a signature. -/
theorem run_isTypeChar
    (d : MethodDraft)
    (u : Text) :
    Text.run MemberHead.isTypeChar
        (Text.spaced
            (d.modifiers ++ [d.returnType.text, d.name.text]) ++
          '(' :: u) =
      (Text.spaced
          (d.modifiers ++ [d.returnType.text, d.name.text]),
        '(' :: u) := by
  have hNone : ∀ c ∈ ([] : Text), isBlank c = true := by
    simp
  have hSign : MemberHead.isTypeChar '(' = false := by decide
  have h :=
    run_isTypeChar_spaced (u := u) d.isOneWord_of_mem hNone hSign
  rwa [List.append_nil] at h

end MethodDraft

namespace MethodHeader

/- Methods are looked for at access keywords. -/
theorem heeds : reader.Heeds Access.keywords := by
  intro before t v x h
  simp only [reader, Option.bind_eq_bind,
    Option.bind_eq_some_iff, Prod.exists] at h
  rcases h with
    ⟨access, rest, hAccess, _, _, _, _, head, hHead, -⟩
  rw [MemberHead.ofStretch?] at hHead
  dsimp only at hHead
  split_ifs at hHead with hIf
  simp only [Bool.and_eq_true] at hIf
  exact takeWhile_isWord_of_leadingAccess? hAccess hIf.1.1

theorem not_mem_parameterText
    (d : MethodDraft) : ')' ∉ d.parameterText := by
  intro hMem
  have hSign : isWord ')' = false := by decide
  rcases Text.mem_join hMem with hMem | ⟨t, ht, hMem⟩
  · exact absurd hMem (by decide)
  · rcases List.mem_map.mp ht with ⟨⟨type, name⟩, -, rfl⟩
    rcases List.mem_append.mp hMem with hMem | hMem
    · exact type.isOneWord.not_mem hSign hMem
    · rcases List.mem_cons.mp hMem with hMem | hMem
      · exact absurd hMem (by decide)
      · exact name.isOneWord.not_mem hSign hMem

/- The line of a signature is read. -/
theorem reader_draft
    (hStart : atWordStart before = true)
    (d : MethodDraft)
    (u : Text) :
    reader before (d.signature ++ u) =
      some
        (⟨d.access,
          ⟨d.modifiers, d.returnType.text, d.name.text⟩,
          d.parameterText⟩, d.signature) := by
  have hHead :
      MemberHead.ofStretch? modifierWords
          (Text.spaced
            (d.modifiers ++ [d.returnType.text, d.name.text])) =
        some ⟨d.modifiers, d.returnType.text, d.name.text⟩ := by
    have hType : d.returnType.text ∉ modifierWords :=
      d.returnType.not_mem_of_subset fun w hw =>
        mem_headWords_of_mem
          (Or.inr (Or.inr (Or.inr (Or.inl hw))))
    have hNone : ∀ c ∈ ([] : Text), isBlank c = true := by
      simp
    have h :=
      MemberHead.ofStretch?_spaced d.mem_modifierWords
        d.isOneWord_of_mem_modifiers hType
        d.returnType.isOneWord d.name.isOneWord hNone
    rwa [List.append_nil] at h
  have hParameters :
      Text.run (· != ')') (d.parameterText ++ ')' :: u) =
        (d.parameterText, ')' :: u) := by
    apply Text.run_append
    · intro c hc
      have hNe : c ≠ ')' := by
        rintro rfl
        exact not_mem_parameterText d hc
      simpa using hNe
    · intro c hc
      cases hc
      rfl
  have hText :
      d.signature ++ u =
        d.access.keyword ++
          (Text.spaced
              (d.modifiers ++ [d.returnType.text, d.name.text]) ++
            '(' :: (d.parameterText ++ ')' :: u)) := by
    simp [MethodDraft.signature]
  rw [reader, hText]
  simp only [Option.bind_eq_bind,
    leadingAccess?_keyword hStart, Option.bind_some,
    d.run_isTypeChar, Text.after?, if_true, hParameters, hHead]
  simp [Access.ofKeyword_keyword, MethodDraft.signature]

end MethodHeader

------------------------------------------------------------
-- Types
------------------------------------------------------------

namespace TypeHeader

/- Types are looked for at access keywords. -/
theorem heeds : reader.Heeds Access.keywords := by
  intro before t v x h
  simp only [reader, Option.bind_eq_bind,
    Option.bind_eq_some_iff, Prod.exists] at h
  rcases h with
    ⟨access, rest, hAccess, _, _, _, -, _, _, -, _, _, -, _, _, _,
      -, _, -, hResult⟩
  split_ifs at hResult with hBlank
  exact takeWhile_isWord_of_leadingAccess? hAccess hBlank

theorem run_stretch
    {ws : List Text}
    {blanks u : Text}
    {sign : Char}
    (hws : ∀ w ∈ ws, IsOneWord w)
    (hBlanks : ∀ c ∈ blanks, isBlank c = true)
    (hWord : isWord sign = false)
    (hBlank : isBlank sign = false) :
    Text.run (fun c => isWord c || isBlank c)
        (Text.spaced ws ++ blanks ++ sign :: u) =
      (Text.spaced ws ++ blanks, sign :: u) := by
  apply run_spaced _ _ hws hBlanks
  · intro c hc
    cases hc
    simp [hWord, hBlank]
  · exact fun c hc => by simp [hc]
  · exact fun c hc => by simp [hc]

theorem words_stretch
    {ws : List Text}
    {blanks : Text}
    (hws : ∀ w ∈ ws, IsOneWord w)
    (hBlanks : ∀ c ∈ blanks, isBlank c = true) :
    Text.words (Text.spaced ws ++ blanks) = ws :=
  Text.words_spaced
    (fun w hw => ⟨(hws w hw).ne_nil, (hws w hw).blank⟩) hBlanks

/-
  A header is read from its words, the list of bases behind
  them, and the brace.
-/
theorem reader_words
    (hStart : atWordStart before = true)
    (access : Access)
    {ws modifiers : List Text}
    {kind : TypeKind}
    {name blanks list bases u : Text}
    (hws : ∀ w ∈ ws, IsOneWord w)
    (hNil : ws ≠ [])
    (hBlanks : ∀ c ∈ blanks, isBlank c = true)
    (hWords : ofWords? ws = some (modifiers, kind, name))
    (hSign :
      ∃ sign rest, list ++ '\x7b' :: u = sign :: rest ∧
        (sign = ':' ∨ sign = '\x7b'))
    (hBases :
      skipBases? (list ++ '\x7b' :: u) =
        some (list, bases, '\x7b' :: u)) :
    reader before
        (access.keyword ++
          (Text.spaced ws ++ blanks ++ (list ++ '\x7b' :: u))) =
      some
        (⟨access, modifiers, kind, name, bases⟩,
          access.keyword ++ Text.spaced ws ++ blanks ++ list ++
            ['\x7b']) := by
  have hStartsBlank :
      startsBlank (Text.spaced ws ++ blanks) = true := by
    cases ws with
    | nil => exact absurd rfl hNil
    | cons w ws => rfl
  rcases hSign with ⟨sign, rest, hTail, hSign⟩
  rw [hTail] at hBases ⊢
  have hStretch :
      Text.run (fun c => isWord c || isBlank c)
          (Text.spaced ws ++ blanks ++ sign :: rest) =
        (Text.spaced ws ++ blanks, sign :: rest) := by
    apply run_stretch hws hBlanks
    · rcases hSign with rfl | rfl <;> decide
    · rcases hSign with rfl | rfl <;> decide
  have hParameters :
      skipParameters? (sign :: rest) = some ([], sign :: rest) := by
    rcases hSign with rfl | rfl <;> rfl
  have hGap :
      Text.run isBlank (sign :: rest) = ([], sign :: rest) := by
    rcases hSign with rfl | rfl <;> rfl
  have hFields :
      skipParentheses? (sign :: rest) =
        some ([], sign :: rest) := by
    rcases hSign with rfl | rfl <;> rfl
  rw [reader]
  simp only [Option.bind_eq_bind,
    leadingAccess?_keyword hStart, Option.bind_some, hStretch,
    words_stretch hws hBlanks, hWords, hParameters, hGap,
    hFields, hBases, Text.after?, if_true, hStartsBlank]
  simp [Access.ofKeyword_keyword]

/- Words that end in a kind and a name are those of a type. -/
theorem ofWords?_append
    {modifiers : List Text}
    (hModifiers : ∀ w ∈ modifiers, w ∈ modifierWords)
    (kind : TypeKind)
    (name : Text) :
    ofWords? (modifiers ++ [kind.keyword, name]) =
      some (modifiers, kind, name) := by
  have hReverse :
      (modifiers ++ [kind.keyword, name]).reverse =
        name :: kind.keyword :: modifiers.reverse := by
    simp
  have hKind : TypeKind.keywords.contains kind.keyword = true := by
    simpa using kind.keyword_mem
  have hAll :
      modifiers.reverse.all modifierWords.contains = true := by
    rw [List.all_reverse, List.all_eq_true]
    exact fun w hw => by simpa using hModifiers w hw
  rw [ofWords?, hReverse]
  dsimp only
  rw [hKind, hAll, Bool.true_and, if_pos rfl,
    List.reverse_reverse, TypeKind.ofKeyword_keyword]

/- If there is no kind in front of the name, there is no type. -/
theorem ofWords?_eq_none
    {ws : List Text}
    {type name : Text}
    (hType : type ∉ TypeKind.keywords) :
    ofWords? (ws ++ [type, name]) = none := by
  have hReverse :
      (ws ++ [type, name]).reverse =
        name :: type :: ws.reverse := by
    simp
  have hKind : TypeKind.keywords.contains type = false := by
    simpa using hType
  rw [ofWords?, hReverse]
  dsimp only
  rw [hKind, Bool.false_and, if_neg (by simp)]

/- So the header of a member is not read as one of a type. -/
theorem reader_member
    {ws : List Text}
    {type name blanks : Text}
    {sign : Char}
    (hStart : atWordStart before = true)
    (access : Access)
    (hws : ∀ w ∈ ws ++ [type, name], IsOneWord w)
    (hType : type ∉ TypeKind.keywords)
    (hBlanks : ∀ c ∈ blanks, isBlank c = true)
    (hSign : isWord sign = false ∧ isBlank sign = false)
    (u : Text) :
    reader before
        (access.keyword ++
          (Text.spaced (ws ++ [type, name]) ++ blanks ++
            sign :: u)) =
      none := by
  rw [reader]
  simp only [Option.bind_eq_bind,
    leadingAccess?_keyword hStart, Option.bind_some,
    run_stretch hws hBlanks hSign.1 hSign.2,
    words_stretch hws hBlanks, ofWords?_eq_none hType,
    Option.bind_none]

end TypeHeader

namespace TypeDraft

/- The words of a header. -/
theorem isOneWord_of_mem_words
    (d : TypeDraft) : ∀ w ∈ d.words, IsOneWord w := by
  intro w hw
  rcases List.mem_append.mp hw with hw | hw
  · rcases List.mem_map.mp hw with ⟨m, -, rfl⟩
    exact TypeModifier.isOneWord m
  · simp only [List.mem_cons, List.not_mem_nil, or_false] at hw
    rcases hw with rfl | rfl
    · exact d.kind.isOneWord
    · exact d.name.isOneWord

theorem isOneWord_of_mem_bases
    (d : TypeDraft) : ∀ w ∈ d.bases, IsOneWord w := by
  intro w hw
  rcases List.mem_append.mp hw with hw | hw
  · rw [Option.mem_toList, Option.map_eq_some_iff] at hw
    rcases hw with ⟨name, -, rfl⟩
    exact name.val.isOneWord
  · rcases List.mem_map.mp hw with ⟨name, -, rfl⟩
    exact name.val.isOneWord

theorem ofWords?_words (d : TypeDraft) :
    TypeHeader.ofWords? d.words =
      some
        (d.modifiers.map Subtype.val, d.kind, d.name.text) := by
  apply TypeHeader.ofWords?_append
  intro w hw
  rcases List.mem_map.mp hw with ⟨m, -, rfl⟩
  exact m.property

/- The list of bases, without blanks around it. -/
def baseList (d : TypeDraft) : Text :=
  Text.join ", ".toList d.bases

theorem isBaseChar_of_mem_baseList
    (d : TypeDraft) :
    ∀ c ∈ d.baseList, TypeHeader.isBaseChar c = true := by
  intro c hc
  rcases Text.mem_join hc with hc | ⟨w, hw, hc⟩
  · have hAll :
        ∀ c ∈ ", ".toList, TypeHeader.isBaseChar c = true := by
      decide
    exact hAll c hc
  · have hOne := d.isOneWord_of_mem_bases w hw
    have hBrace : c ≠ '\x7b' := by
      rintro rfl
      exact hOne.not_mem (by decide) hc
    have hEnd : c ≠ ';' := by
      rintro rfl
      exact hOne.not_mem (by decide) hc
    simp [TypeHeader.isBaseChar, hBrace, hEnd]

end TypeDraft

end SourceDocs
