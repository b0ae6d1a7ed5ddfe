import SourceDocs.Proofs.Declaration.Headers
import SourceDocs.Proofs.Declaration.ListParts
import SourceDocs.Proofs.Text.MarkCuts

/-
  Lists of names, read back as they were written.

  Names are parted by commas with a space behind each. The
  lists of a draft hold no brackets, no default values and
  no constraints, so each part is one base or one parameter.
  The first entry of a list that is not called like an
  interface is the base.

  Key definitions include:
    * `SourceDocs.Text.IsTrimmed`
    * `SourceDocs.Parameter.written`
    * `SourceDocs.Parameter.IsBareName`
    * `SourceDocs.Parameter.IsListType`

  Main results:
    * `SourceDocs.BaseList.ofText_eq`
    * `SourceDocs.TypeDraft.ofText_baseList`
    * `SourceDocs.Parameter.ofText?_written`
    * `SourceDocs.Parameter.listOfText_written`
    * `SourceDocs.Parameter.listOfText_join`
    * `SourceDocs.MethodDraft.listOfText_parameterText`
-/

------------------------------------------------------------
-- No Constraints
------------------------------------------------------------

namespace SourceDocs

namespace Text

/- In a list, each space stands behind a comma. -/
theorem getLast?_of_join_eq
    {ws : List Text}
    (hws : ∀ w ∈ ws, ' ' ∉ w)
    {a b : Text}
    (h : join separator ws = a ++ ' ' :: b) :
    a.getLast? = some ',' := by
  induction ws generalizing a with
  | nil => simp [join] at h
  | cons w ws ih =>
      rw [List.forall_mem_cons] at hws
      cases ws with
      | nil =>
          rw [join, List.intercalate_singleton] at h
          exact absurd (by simp [h]) hws.1
      | cons w' ws =>
          have hText :
              join separator (w :: w' :: ws) =
                (w ++ [',']) ++ ' ' :: join separator (w' :: ws) := by
            rw [join_cons_cons]
            simp [separator]
          have hNot : ' ' ∉ w ++ [','] := by simp [hws.1]
          rw [hText] at h
          rcases append_mark_cases hNot h.symm with
            ⟨a', rfl, hRest⟩ | ⟨t, hFirst, hSpace⟩
          · rw [List.getLast?_append, List.getLast?_cons,
              ih hws.2 hRest]
            rfl
          · cases t with
            | nil =>
                rw [List.append_nil] at hFirst
                rw [← hFirst, List.getLast?_concat]
            | cons c t =>
                rw [List.cons_append, List.cons.injEq] at hSpace
                rw [hFirst, ← hSpace.1] at hNot
                exact absurd (by simp) hNot

/- In a list of words no word stands between two spaces. -/
theorem cutAt?_join_eq_none
    {v : Text}
    {ws : List Text}
    (hv : IsOneWord v)
    (hws : ∀ w ∈ ws, IsOneWord w) :
    cutAt? (' ' :: (v ++ [' '])) (join separator ws) = none := by
  rw [cutAt?_eq_none_iff]
  rintro ⟨a, b, hEq⟩
  have hText : join separator ws = (a ++ ' ' :: v) ++ ' ' :: b := by
    rw [← hEq]
    simp
  have hComma : (a ++ ' ' :: v).getLast? = some ',' :=
    getLast?_of_join_eq
      (fun w hw => (hws w hw).not_mem (by decide)) hText
  rcases List.eq_nil_or_concat' v with rfl | ⟨v, c, rfl⟩
  · exact absurd rfl hv.ne_nil
  · rw [← List.cons_append, ← List.append_assoc,
      List.getLast?_concat, Option.some.injEq] at hComma
    have hWord := hv.word c (by simp)
    rw [hComma] at hWord
    exact absurd hWord (by decide)

------------------------------------------------------------
-- Ends Of A List
------------------------------------------------------------

/- A text without blanks at its ends. -/
structure IsTrimmed (t : Text) : Prop where
  ne_nil : t ≠ []
  first : ∀ c, t.head? = some c → isBlank c = false
  last : ∀ c, t.getLast? = some c → isBlank c = false

theorem isTrimmed_iff
    {t : Text} :
    IsTrimmed t ↔
      t ≠ [] ∧ t.head?.all (!isBlank ·) = true ∧
        t.getLast?.all (!isBlank ·) = true := by
  simp only [Option.all_eq_true, Bool.not_eq_true']
  exact ⟨fun h => ⟨h.ne_nil, h.first, h.last⟩,
    fun h => ⟨h.1, h.2.1, h.2.2⟩⟩

instance (t : Text) : Decidable (IsTrimmed t) :=
  decidable_of_iff _ isTrimmed_iff.symm

theorem isTrimmed_of_isOneWord
    {w : Text}
    (hw : IsOneWord w) : IsTrimmed w :=
  ⟨hw.ne_nil,
   fun c hc => hw.blank c (List.mem_of_mem_head? hc),
   fun c hc => hw.blank c (List.mem_of_mem_getLast? hc)⟩

/- What trimming leaves has no blanks at its ends. -/
theorem isTrimmed_trim
    {t : Text}
    (hNil : trim t ≠ []) : IsTrimmed (trim t) := by
  refine ⟨hNil, fun c hc => ?_, fun c hc => ?_⟩
  · rcases exists_trimEnd_eq (trimStart t) with ⟨b, hEq, -⟩
    have hHead : (trimStart t).head? = some c := by
      rcases List.head?_eq_some_iff.mp hc with ⟨u, hu⟩
      rw [hEq, ← trim, hu]
      rfl
    exact not_of_head?_dropWhile hHead
  · rw [trim, trimEnd, dropEndWhile, List.getLast?_reverse] at hc
    exact not_of_head?_dropWhile hc

namespace IsTrimmed

variable {t u : Text}

/- Blanks around such a text are trimmed off. -/
theorem trim_append
    (ht : IsTrimmed t)
    {a b : Text}
    (ha : ∀ c ∈ a, isBlank c = true)
    (hb : ∀ c ∈ b, isBlank c = true) :
    trim (a ++ t ++ b) = t :=
  Text.trim_append ha hb ht.ne_nil ht.first ht.last

theorem trim_eq (ht : IsTrimmed t) : trim t = t := by
  have h := ht.trim_append (a := []) (b := []) (by simp) (by simp)
  rwa [List.nil_append, List.append_nil] at h

theorem trim_cons (ht : IsTrimmed t) : trim (' ' :: t) = t := by
  have h :=
    ht.trim_append (a := [' ']) (b := []) (by decide) (by simp)
  rwa [List.append_nil] at h

theorem append
    (ht : IsTrimmed t)
    (hu : IsTrimmed u)
    (mark : Text) : IsTrimmed (t ++ mark ++ u) := by
  refine ⟨by simp [ht.ne_nil], fun c hc => ?_, fun c hc => ?_⟩
  · rcases List.exists_cons_of_ne_nil ht.ne_nil with ⟨d, t', rfl⟩
    exact ht.first c hc
  · rw [List.getLast?_append,
      List.getLast?_eq_some_getLast hu.ne_nil, Option.some_or]
      at hc
    apply hu.last
    rw [List.getLast?_eq_some_getLast hu.ne_nil, hc]

/- Joined, such texts have no blanks at the ends. -/
theorem join
    {ts : List Text}
    (hts : ∀ t ∈ ts, IsTrimmed t)
    (hNil : ts ≠ [])
    (mark : Text) : IsTrimmed (Text.join mark ts) := by
  induction ts with
  | nil => exact absurd rfl hNil
  | cons t ts ih =>
      have ht := hts t List.mem_cons_self
      cases ts with
      | nil =>
          rw [Text.join, List.intercalate_singleton]
          exact ht
      | cons t' ts =>
          rw [join_cons_cons]
          exact ht.append
            (ih (fun u hu => hts u (List.mem_cons_of_mem t hu))
              (List.cons_ne_nil t' ts)) mark

end IsTrimmed

/- Trimmed, the parts of a list are what it was made of. -/
theorem map_trim_splitTopLevel
    {ts : List Text}
    (hPlain : ∀ t ∈ ts, IsPlain t)
    (hTrimmed : ∀ t ∈ ts, IsTrimmed t)
    (hNil : ts ≠ []) :
    (splitTopLevel (join separator ts)).map trim = ts := by
  cases ts with
  | nil => exact absurd rfl hNil
  | cons t ts =>
      rw [List.forall_mem_cons] at hTrimmed
      rw [splitTopLevel_join_of_isPlain hPlain, List.map_cons,
        hTrimmed.1.trim_eq, List.map_map]
      refine congrArg (t :: ·) ?_
      conv =>
        rhs
        rw [← List.map_id ts]
      exact List.map_congr_left fun u hu =>
        (hTrimmed.2 u hu).trim_cons

end Text

------------------------------------------------------------
-- Bases
------------------------------------------------------------

namespace BaseList

variable {entry : Text}

theorem isInterfaceName_iff
    {name : Text} :
    isInterfaceName name = true ↔
      ∃ c rest, name = 'I' :: c :: rest ∧ isAsciiUpper c = true := by
  constructor
  · intro h
    unfold isInterfaceName at h
    split at h
    · next c rest => exact ⟨c, rest, rfl, h⟩
    · cases h
  · rintro ⟨c, rest, rfl, hc⟩
    exact hc

/- Behind the name of an entry are blanks and arguments. -/
theorem exists_bareName_append
    (hTrimmed : Text.IsTrimmed entry) :
    ∃ b, entry.takeWhile (· ≠ '<') = bareName entry ++ b ∧
      ∀ c ∈ b, isBlank c = true := by
  have hStart :
      Text.trimStart (entry.takeWhile (· ≠ '<')) =
        entry.takeWhile (· ≠ '<') := by
    cases hTake : entry.takeWhile (· ≠ '<') with
    | nil => rfl
    | cons c name =>
        have hPrefix := List.takeWhile_prefix (l := entry) (· ≠ '<')
        rw [hTake] at hPrefix
        rcases hPrefix with ⟨rest, hEq⟩
        have hc := hTrimmed.first c (by rw [← hEq]; rfl)
        exact List.dropWhile_cons_of_neg (by simp [hc])
  have hEnd :=
    Text.exists_trimEnd_eq (entry.takeWhile (· ≠ '<'))
  rw [bareName, Text.trim, hStart]
  exact hEnd

/- Type arguments do not make an interface of an entry. -/
theorem isInterfaceName_bareName
    (hTrimmed : Text.IsTrimmed entry) :
    isInterfaceName (bareName entry) = isInterfaceName entry := by
  rcases exists_bareName_append hTrimmed with ⟨b, hEq, hb⟩
  rw [Bool.eq_iff_iff, isInterfaceName_iff, isInterfaceName_iff]
  constructor
  · rintro ⟨c, rest, hName, hc⟩
    have hPrefix := List.takeWhile_prefix (l := entry) (· ≠ '<')
    rw [hEq, hName] at hPrefix
    rcases hPrefix with ⟨arguments, hEntry⟩
    exact ⟨c, _, hEntry.symm, hc⟩
  · rintro ⟨c, rest, rfl, hc⟩
    have hAngle : c ≠ '<' := by
      rintro rfl
      exact absurd hc (by decide)
    have hBlank : isBlank c = false := by
      apply isBlank_of_isWord
      apply isWord_of_isAsciiWord
      rw [isAsciiWord, isAsciiLetter, hc]
      rfl
    rw [List.takeWhile_cons_of_pos (by decide),
      List.takeWhile_cons_of_pos (by simpa using hAngle)] at hEq
    -- Neither of the two characters can be in the blanks.
    rcases hName : bareName ('I' :: c :: rest) with
      _ | ⟨i, _ | ⟨d, name⟩⟩
    · rw [hName, List.nil_append] at hEq
      have hMem : 'I' ∈ b := by
        rw [← hEq]
        exact List.mem_cons_self
      exact absurd (hb _ hMem) (by decide)
    · rw [hName] at hEq
      rcases List.cons.inj hEq with ⟨-, hRest⟩
      have hBlanks : c :: _ = b := hRest
      have hMem : c ∈ b := by
        rw [← hBlanks]
        exact List.mem_cons_self
      rw [hb c hMem] at hBlank
      cases hBlank
    · rw [hName] at hEq
      rcases List.cons.inj hEq with ⟨rfl, hRest⟩
      rcases List.cons.inj hRest with ⟨rfl, -⟩
      exact ⟨c, name, rfl, hc⟩

/- Behind a base, every entry is an interface. -/
theorem foldl_add_of_base
    (es : List Text)
    (base : Text)
    (interfaces : List Text) :
    es.foldl add ⟨some base, interfaces⟩ =
      ⟨some base, interfaces ++ es⟩ := by
  induction es generalizing interfaces with
  | nil => rw [List.foldl_nil, List.append_nil]
  | cons e es ih =>
      have hAdd :
          add ⟨some base, interfaces⟩ e =
            ⟨some base, interfaces ++ [e]⟩ :=
        if_pos (Or.inr rfl)
      rw [List.foldl_cons, hAdd, ih, List.append_assoc,
        List.singleton_append]

theorem foldl_add
    {es : List Text}
    (hEntries : ∀ e ∈ es, Text.IsTrimmed e)
    (interfaces : List Text) :
    es.foldl add ⟨none, interfaces⟩ =
      ⟨es.find? (!isInterfaceName ·),
        interfaces ++ es.eraseP (!isInterfaceName ·)⟩ := by
  induction es generalizing interfaces with
  | nil => simp
  | cons e es ih =>
      rw [List.forall_mem_cons] at hEntries
      have hName := isInterfaceName_bareName hEntries.1
      rw [List.foldl_cons, add, hName]
      cases hKind : isInterfaceName e with
      | true =>
          rw [if_pos (Or.inl rfl), ih hEntries.2,
            List.find?_cons_of_neg (by simp [hKind]),
            List.eraseP_cons_of_neg (by simp [hKind]),
            List.append_assoc, List.singleton_append]
      | false =>
          rw [if_neg (by simp), foldl_add_of_base,
            List.find?_cons_of_pos (by simp [hKind]),
            List.eraseP_cons_of_pos (by simp [hKind])]

theorem isTrimmed_of_mem_entries
    {t : Text}
    (h : entry ∈ entries t) : Text.IsTrimmed entry := by
  rcases List.mem_filter.mp h with ⟨hMem, hNil⟩
  rcases List.mem_map.mp hMem with ⟨part, -, rfl⟩
  exact Text.isTrimmed_trim (by simpa using hNil)

/-
  The base is the first entry that is not called like an
  interface; all others are interfaces, in their order.
-/
theorem ofText_eq (t : Text) :
    ofText t =
      ⟨(entries t).find? (!isInterfaceName ·),
        (entries t).eraseP (!isInterfaceName ·)⟩ :=
  foldl_add (fun _ h => isTrimmed_of_mem_entries h) []

/- So no entry is lost. -/
theorem mem_entries_iff
    {t : Text} :
    entry ∈ entries t ↔
      (ofText t).base = some entry ∨
        entry ∈ (ofText t).interfaces := by
  rw [ofText_eq]
  dsimp only
  induction entries t with
  | nil => simp
  | cons e es ih =>
      cases hKind : isInterfaceName e with
      | true =>
          rw [List.find?_cons_of_neg (by simp [hKind]),
            List.eraseP_cons_of_neg (by simp [hKind]),
            List.mem_cons, List.mem_cons, ih, or_left_comm]
      | false =>
          rw [List.find?_cons_of_pos (by simp [hKind]),
            List.eraseP_cons_of_pos (by simp [hKind]),
            List.mem_cons, Option.some.injEq, eq_comm]

/- The entries of a list of names are the names. -/
theorem entries_join
    {ws : List Text}
    (hws : ∀ w ∈ ws, IsOneWord w) :
    entries (Text.join Text.separator ws) = ws := by
  have hWhere :
      Text.cutAt? " where ".toList
        (Text.join Text.separator ws) = none :=
    Text.cutAt?_join_eq_none (v := "where".toList)
      (isOneWord_of_all (by decide)) hws
  rw [entries, hWhere]
  dsimp only
  by_cases hNil : ws = []
  · subst hNil
    rfl
  · rw [Text.map_trim_splitTopLevel
        (fun w hw => Text.isPlain_of_isOneWord (hws w hw))
        (fun w hw => Text.isTrimmed_of_isOneWord (hws w hw)) hNil,
      List.filter_eq_self]
    exact fun w hw => by simpa using (hws w hw).ne_nil

end BaseList

namespace TypeDraft

/- The bases of a type are read back from their list. -/
theorem ofText_baseList (d : TypeDraft) :
    BaseList.ofText d.baseList =
      ⟨d.base.map fun name => name.val.text,
        d.interfaces.map fun name => name.val.text⟩ := by
  have hInterfaces :
      ∀ w ∈ d.interfaces.map fun name => name.val.text,
        ¬ (!BaseList.isInterfaceName w) = true := by
    intro w hw
    rcases List.mem_map.mp hw with ⟨name, -, rfl⟩
    simp [name.property]
  rw [BaseList.ofText_eq, baseList,
    show ", ".toList = Text.separator from rfl,
    BaseList.entries_join d.isOneWord_of_mem_bases, bases]
  cases d.base with
  | none =>
      rw [Option.map_none, Option.toList_none, List.nil_append,
        List.find?_eq_none.mpr hInterfaces,
        List.eraseP_of_forall_not hInterfaces]
  | some name =>
      rw [Option.map_some, Option.toList_some,
        List.singleton_append,
        List.find?_cons_of_pos (by simp [name.property]),
        List.eraseP_cons_of_pos (by simp [name.property])]

end TypeDraft

------------------------------------------------------------
-- Parameters
------------------------------------------------------------

namespace Parameter

/- A type and a name with a space between them. -/
def written (type name : Text) : Text :=
  type ++ ' ' :: name

variable {type name : Text}

theorem not_mem_written
    {c : Char}
    (hType : IsOneWord type)
    (hName : IsOneWord name)
    (hc : isWord c = false)
    (hSpace : c ≠ ' ') : c ∉ written type name := by
  intro hMem
  rcases List.mem_append.mp hMem with hMem | hMem
  · exact hType.not_mem hc hMem
  · rcases List.mem_cons.mp hMem with hMem | hMem
    · exact hSpace hMem
    · exact hName.not_mem hc hMem

/- A name that holds no blanks and none of a list's signs. -/
structure IsBareName (name : Text) : Prop where
  ne_nil : name ≠ []
  blank : ∀ c ∈ name, isBlank c = false
  equals : '=' ∉ name
  plain : Text.IsPlain name

instance (name : Text) : Decidable (IsBareName name) :=
  decidable_of_iff
    (name ≠ [] ∧ (∀ c ∈ name, isBlank c = false) ∧ '=' ∉ name ∧
      Text.IsPlain name)
    ⟨fun h => ⟨h.1, h.2.1, h.2.2.1, h.2.2.2⟩,
     fun h => ⟨h.ne_nil, h.blank, h.equals, h.plain⟩⟩

theorem isBareName_of_isOneWord
    (hName : IsOneWord name) : IsBareName name :=
  ⟨hName.ne_nil, hName.blank, hName.not_mem (by decide),
   Text.isPlain_of_isOneWord hName⟩

theorem IsBareName.isTrimmed
    (hName : IsBareName name) : Text.IsTrimmed name :=
  ⟨hName.ne_nil,
   fun c hc => hName.blank c (List.mem_of_mem_head? hc),
   fun c hc => hName.blank c (List.mem_of_mem_getLast? hc)⟩

/-
  A type that a list of parameters does not part, as its
  commas are enclosed and its brackets closed.
-/
structure IsListType (type : Text) : Prop where
  trimmed : Text.IsTrimmed type
  equals : '=' ∉ type
  enclosed : Text.IsEnclosed 0 type
  closed : Text.depthAfter 0 type = 0

theorem isListType_of_isOneWord
    (hType : IsOneWord type) : IsListType type :=
  ⟨Text.isTrimmed_of_isOneWord hType,
   hType.not_mem (by decide),
   (Text.isPlain_of_isOneWord hType).isEnclosed 0,
   (Text.isPlain_of_isOneWord hType).depthAfter_eq 0⟩

theorem isTrimmed_written
    (hType : Text.IsTrimmed type)
    (hName : Text.IsTrimmed name) :
    Text.IsTrimmed (written type name) := by
  have h := hType.append hName [' ']
  rwa [List.append_assoc, List.singleton_append] at h

/- The name stands behind the last blank. -/
theorem cutAtLast?_written
    (hName : ∀ c ∈ name, isBlank c = false) :
    Text.cutAtLast? isBlank (written type name) =
      some (type, name) := by
  have hReverse :
      (written type name).reverse =
        name.reverse ++ ' ' :: type.reverse := by
    simp [written]
  have hRun :
      Text.run (!isBlank ·) (name.reverse ++ ' ' :: type.reverse) =
        (name.reverse, ' ' :: type.reverse) := by
    apply Text.run_append
    · exact fun c hc => by
        simp [hName c (List.mem_reverse.mp hc)]
    · intro c hc
      cases hc
      decide
  rw [Text.cutAtLast?, hReverse,
    show
      (name.reverse ++ ' ' :: type.reverse).dropWhile
          (!isBlank ·) = ' ' :: type.reverse from
      congrArg Prod.snd hRun,
    show
      (name.reverse ++ ' ' :: type.reverse).takeWhile
          (!isBlank ·) = name.reverse from
      congrArg Prod.fst hRun]
  dsimp only
  rw [List.reverse_reverse, List.reverse_reverse]

/-
  A parameter is read back, with blanks or a default value
  behind it.
-/
theorem ofText?_written
    {back : Text}
    (hType : IsListType type)
    (hName : IsBareName name)
    (hBack : ∀ c ∈ back.takeWhile (· ≠ '='), isBlank c = true) :
    ofText? (written type name ++ back) = some ⟨type, name⟩ := by
  have hWritten :
      ∀ c ∈ written type name, decide (c ≠ '=') = true := by
    have hNot : '=' ∉ written type name := by
      simp [written, hType.equals, hName.equals]
    intro c hc
    simpa using fun hEq : c = '=' => hNot (hEq ▸ hc)
  have hTrimmed :=
    isTrimmed_written hType.trimmed hName.isTrimmed
  have hTrim :=
    hTrimmed.trim_append (a := []) (by simp) hBack
  rw [List.nil_append] at hTrim
  rw [ofText?, List.takeWhile_append_of_pos hWritten, hTrim,
    if_neg hTrimmed.ne_nil, cutAtLast?_written hName.blank]
  dsimp only
  rw [hType.trimmed.trim_eq, hName.isTrimmed.trim_eq]

theorem IsBareName.isPlain_cons
    (hName : IsBareName name) : Text.IsPlain (' ' :: name) := by
  unfold Text.IsPlain
  rw [List.forall_mem_cons]
  exact ⟨by decide, hName.plain⟩

theorem depthAfter_written
    (hType : IsListType type)
    (hName : IsBareName name) :
    Text.depthAfter 0 (written type name) = 0 := by
  rw [written, Text.depthAfter_append, hType.closed,
    hName.isPlain_cons.depthAfter_eq]

theorem isEnclosed_written
    (hType : IsListType type)
    (hName : IsBareName name) :
    Text.IsEnclosed 0 (written type name) := by
  unfold Text.IsEnclosed written
  rw [Text.behindCommas_append_iff, hType.closed]
  exact ⟨hType.enclosed, hName.isPlain_cons.isEnclosed 0⟩

/-
  A parameter is the first that its text declares. Behind it
  stands what the default value declares besides.
-/
theorem listOfText_written
    (hType : IsListType type)
    (hName : IsBareName name)
    (back : Text)
    {first : Text}
    {rest : List Text}
    (hSplit : Text.splitTopLevel back = first :: rest)
    (hFirst : ∀ c ∈ first.takeWhile (· ≠ '='), isBlank c = true) :
    listOfText (written type name ++ back) =
      ⟨type, name⟩ :: rest.filterMap ofText? := by
  have hEnclosed := isEnclosed_written hType hName
  rw [listOfText,
    Text.splitTopLevel_append hEnclosed
      (depthAfter_written hType hName),
    hSplit, List.modifyHead_cons,
    List.filterMap_cons_some (ofText?_written hType hName hFirst)]

theorem listOfText_of_isOneWord
    (hType : IsOneWord type)
    (hName : IsOneWord name) :
    listOfText (written type name) = [⟨type, name⟩] := by
  have h :=
    listOfText_written (isListType_of_isOneWord hType)
      (isBareName_of_isOneWord hName) [] rfl (by simp)
  rwa [List.append_nil] at h

/- A space in front of a part makes no difference. -/
theorem ofText?_space (part : Text) :
    ofText? (' ' :: part) = ofText? part := by
  have hBlank : isBlank ' ' = true := by decide
  have hTrim :
      Text.trim ((' ' :: part).takeWhile (· ≠ '=')) =
        Text.trim (part.takeWhile (· ≠ '=')) := by
    rw [List.takeWhile_cons_of_pos (by decide), Text.trim,
      Text.trimStart, List.dropWhile_cons_of_pos hBlank]
    rfl
  rw [ofText?, hTrim]
  rfl

theorem listOfText_space (t : Text) :
    listOfText (' ' :: t) = listOfText t := by
  have hSplit :
      Text.splitTopLevel (' ' :: t) =
        (Text.splitTopLevel t).modifyHead (' ' :: ·) :=
    Text.splitTopLevel_append (t := [' '])
      (Text.isPlain_space.isEnclosed 0) rfl t
  rw [listOfText, listOfText, hSplit]
  cases Text.splitTopLevel t with
  | nil => rfl
  | cons part parts =>
      rw [List.modifyHead_cons, List.filterMap_cons,
        List.filterMap_cons, ofText?_space]

/- A list declares what its members declare. -/
theorem listOfText_join
    {ts : List Text}
    (hClosed : ∀ t ∈ ts.dropLast, Text.depthAfter 0 t = 0) :
    listOfText (Text.join Text.separator ts) =
      ts.flatMap listOfText := by
  cases ts with
  | nil => rfl
  | cons t ts =>
      rw [listOfText, Text.splitTopLevel_join hClosed,
        List.filterMap_append, List.filterMap_flatMap,
        List.flatMap_cons]
      refine congrArg (listOfText t ++ ·) ?_
      exact List.flatMap_congr fun u _ => listOfText_space u

end Parameter

namespace MethodDraft

/- The list of parameters has no blanks at its ends. -/
theorem trim_parameterText (d : MethodDraft) :
    Text.trim d.parameterText = d.parameterText := by
  by_cases hNil : d.parameters = []
  · rw [parameterText, hNil]
    rfl
  · refine (Text.IsTrimmed.join ?_ (by simpa using hNil) _).trim_eq
    intro t ht
    rcases List.mem_map.mp ht with ⟨⟨type, name⟩, -, rfl⟩
    exact Parameter.isTrimmed_written
      (Text.isTrimmed_of_isOneWord type.isOneWord)
      (Text.isTrimmed_of_isOneWord name.isOneWord)

/- The parameters of a method are read back from their list. -/
theorem listOfText_parameterText (d : MethodDraft) :
    Parameter.listOfText d.parameterText =
      d.parameters.map fun (type, name) =>
        ⟨type.text, name.text⟩ := by
  rw [parameterText, show ", ".toList = Text.separator from rfl,
    Parameter.listOfText_join]
  · rw [List.flatMap_map, List.map_eq_flatMap]
    exact List.flatMap_congr fun (type, name) _ =>
      Parameter.listOfText_of_isOneWord type.isOneWord
        name.isOneWord
  · intro t ht
    rcases List.mem_map.mp (List.dropLast_subset _ ht) with
      ⟨⟨type, name⟩, -, rfl⟩
    exact Parameter.depthAfter_written
      (Parameter.isListType_of_isOneWord type.isOneWord)
      (Parameter.isBareName_of_isOneWord name.isOneWord)

end MethodDraft

end SourceDocs
