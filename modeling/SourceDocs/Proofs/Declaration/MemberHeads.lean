import SourceDocs.Proofs.Declaration.Headers
import SourceDocs.Proofs.Text.Collecting

/-
  The heads of members, told by the words in them.

  Between an access keyword and the sign that ends a head
  stand modifiers, the words of a type and a name. What is
  read for the type are the words between modifiers and
  name. If there are none, it is empty where three blanks
  stand before the name, and else the last modifier.

  Key definitions include:
    * `SourceDocs.MemberHead.innerWords`
    * `SourceDocs.MemberHead.typeWords`
    * `SourceDocs.MemberHead.LacksType`
    * `SourceDocs.MemberHead.IsHeadOf`

  Main results:
    * `SourceDocs.MemberHead.words_dropWords`
    * `SourceDocs.MemberHead.typeOf?_cases`
    * `SourceDocs.MemberHead.IsHeadOf.type_cases`
    * `SourceDocs.MemberHead.IsHeadOf.type_eq_nil_iff`
-/

------------------------------------------------------------
-- Words Of A Head
------------------------------------------------------------

namespace SourceDocs

/- A word does not start with a blank. -/
theorem IsOneWord.startsBlank
    {w : Text}
    (hw : IsOneWord w) : startsBlank w = false := by
  rcases List.exists_cons_of_ne_nil hw.ne_nil with ⟨c, w, rfl⟩
  exact hw.blank c List.mem_cons_self

namespace MemberHead

/- A header up to the sign that ends its head. -/
def written (covered : Text) : Text :=
  Text.trimEnd (covered.takeWhile isTypeChar)

/- The words between the access keyword and the name. -/
def innerWords (covered : Text) : List Text :=
  (Text.words (written covered)).tail.dropLast

/- The words behind the modifiers and before the name. -/
def typeWords
    (modifierWords : List Text)
    (covered : Text) : List Text :=
  (innerWords covered).dropWhile modifierWords.contains

/- The blanks right before the name. -/
def nameGap (covered : Text) : Text :=
  ((written covered).reverse.dropWhile (!isBlank ·)).takeWhile
    isBlank

/-
  Whether a header leaves out the type: only modifiers stand
  before the name, and at least three blanks right before it.
-/
structure LacksType
    (modifierWords : List Text)
    (covered : Text) : Prop where
  words : ∀ w ∈ innerWords covered, w ∈ modifierWords
  gap : 3 ≤ (nameGap covered).length

instance (modifierWords : List Text) (covered : Text) :
    Decidable (LacksType modifierWords covered) :=
  decidable_of_iff
    ((∀ w ∈ innerWords covered, w ∈ modifierWords) ∧
      3 ≤ (nameGap covered).length)
    ⟨fun ⟨h₁, h₂⟩ => ⟨h₁, h₂⟩, fun h => ⟨h.words, h.gap⟩⟩

variable {modifierWords : List Text}
variable {covered : Text}

theorem typeWords_eq_nil_iff :
    typeWords modifierWords covered = [] ↔
      ∀ w ∈ innerWords covered, w ∈ modifierWords := by
  simp [typeWords, List.dropWhile_eq_nil_iff]

------------------------------------------------------------
-- The Type In Front Of A Name
------------------------------------------------------------

/- As many words are dropped as are to be. -/
theorem words_dropWords
    (n : Nat)
    (t : Text) :
    Text.words (dropWords n t) = (Text.words t).drop n := by
  induction n generalizing t with
  | zero => exact Text.words_trimStart t
  | succ n ih =>
      rw [dropWords, ih, Text.words_dropWhile_trimStart,
        List.drop_tail]

/-
  What stands behind the modifiers in front of a name is the
  type. If nothing does, wide blanks count as one, and the
  last modifier does where there are none.
-/
theorem typeOf?_cases
    {modifierWords modifiers : List Text}
    {front type : Text}
    (h : typeOf? modifierWords front = some (modifiers, type)) :
    let words :=
      (Text.words front).dropWhile modifierWords.contains
    let gap := front.reverse.takeWhile isBlank
    (words ≠ [] ∧ Text.words type = words ∧
        ∀ w, words = [w] → type = w) ∨
      (words = [] ∧ 3 ≤ gap.length ∧ type = []) ∨
      (words = [] ∧ gap.length < 3 ∧ type ∈ modifierWords) := by
  intro words gap
  have hSplit :
      (Text.words front).takeWhile modifierWords.contains ++
        words = Text.words front :=
    List.takeWhile_append_dropWhile
  have hDrop :
      (Text.words front).drop
          ((Text.words front).takeWhile
            modifierWords.contains).length =
        words := by
    conv_lhs =>
      arg 2
      rw [← hSplit]
    exact List.drop_left
  have hNone :
      ¬ ((Text.words front).takeWhile
            modifierWords.contains).length <
          (Text.words front).length →
        words = [] := by
    intro hAll
    rw [← hDrop, List.drop_eq_nil_iff]
    exact Nat.not_lt.mp hAll
  unfold typeOf? at h
  dsimp only at h
  split_ifs at h with hMore hGap
  · rcases Prod.mk.inj (Option.some.inj h) with ⟨-, rfl⟩
    left
    refine ⟨?_, ?_, fun w hw => ?_⟩
    · rw [← hDrop, Ne, List.drop_eq_nil_iff]
      exact Nat.not_le.mpr hMore
    · rw [Text.words_trim, words_dropWords, hDrop]
    · apply Text.trim_of_words_singleton
      rw [words_dropWords, hDrop, hw]
  · rcases Prod.mk.inj (Option.some.inj h) with ⟨-, rfl⟩
    exact Or.inr (Or.inl ⟨hNone hMore, hGap, rfl⟩)
  · rcases Option.map_eq_some_iff.mp h with ⟨last, hLast, hEq⟩
    rcases Prod.mk.inj hEq with ⟨-, rfl⟩
    refine Or.inr (Or.inr ⟨hNone hMore, Nat.not_le.mp hGap, ?_⟩)
    have hAll := List.dropWhile_eq_nil_iff.mp (hNone hMore)
    exact List.contains_iff_mem.mp
      (hAll last (List.mem_of_getLast? hLast))

------------------------------------------------------------
-- Heads That Are Read
------------------------------------------------------------

theorem startsBlank_of_prefix
    {t u : Text}
    (hNil : t ≠ [])
    (hPrefix : t <+: u)
    (hStarts : startsBlank u = true) : startsBlank t = true := by
  rcases List.exists_cons_of_ne_nil hNil with ⟨c, t, rfl⟩
  rcases hPrefix with ⟨u, rfl⟩
  exact hStarts

/-
  A stretch that is read as a head starts with a blank and
  ends in the name, behind another one.
-/
theorem exists_parts_of_ofStretch?
    {modifierWords : List Text}
    {stretch : Text}
    {head : MemberHead}
    (h : ofStretch? modifierWords stretch = some head) :
    ∃ front blank blanks,
      stretch = front ++ [blank] ++ head.name ++ blanks ∧
      isBlank blank = true ∧ (∀ c ∈ blanks, isBlank c = true) ∧
      startsBlank (front ++ [blank]) = true ∧
      IsOneWord head.name ∧
      typeOf? modifierWords (front ++ [blank]) =
        some (head.modifiers, head.type) := by
  let declared := Text.trimEnd stretch
  let name := (declared.reverse.takeWhile (!isBlank ·)).reverse
  rcases Text.exists_trimEnd_eq stretch with
    ⟨blanks, hStretch, hBlanks⟩
  unfold ofStretch? at h
  dsimp only at h
  split_ifs at h with hIf
  simp only [Bool.and_eq_true, Bool.not_eq_true',
    List.isEmpty_eq_false_iff, List.all_eq_true] at hIf
  rcases hIf with ⟨⟨hStarts, hNil⟩, hWord⟩
  have hName : IsOneWord name := ⟨hNil, hWord⟩
  have hParts :
      declared =
        (declared.reverse.dropWhile (!isBlank ·)).reverse ++
          name := by
    rw [← List.reverse_append, List.takeWhile_append_dropWhile,
      List.reverse_reverse]
  cases hRest : declared.reverse.dropWhile (!isBlank ·) with
  | nil =>
      -- All of it would be the name, but it starts with a blank.
      rw [hRest, List.reverse_nil, List.nil_append] at hParts
      have hPrefix : name <+: stretch :=
        hParts ▸ ⟨blanks, hStretch.symm⟩
      have hFirst :=
        startsBlank_of_prefix hName.ne_nil hPrefix hStarts
      rw [hName.startsBlank] at hFirst
      cases hFirst
  | cons blank rest =>
      have hBlank : isBlank blank = true := by
        have hNot :=
          Text.not_of_head?_dropWhile (p := (!isBlank ·))
            (t := declared.reverse) (by rw [hRest]; rfl)
        simpa using hNot
      rw [hRest, List.reverse_cons] at hParts
      have hFront :
          declared.take (declared.length - name.length) =
            rest.reverse ++ [blank] := by
        conv_lhs => rw [hParts]
        rw [List.length_append, Nat.add_sub_cancel,
          List.take_left]
      rcases Option.map_eq_some_iff.mp h with
        ⟨⟨modifiers, type⟩, hType, rfl⟩
      refine ⟨rest.reverse, blank, blanks, ?_, hBlank, hBlanks, ?_,
        hName, ?_⟩
      · conv_lhs => rw [hStretch]
        exact congrArg (· ++ blanks) hParts
      · apply startsBlank_of_prefix (by simp) _ hStarts
        refine ⟨name ++ blanks, ?_⟩
        rw [← List.append_assoc, ← hParts]
        exact hStretch.symm
      · rw [← hFront]
        exact hType

/- Words of a keyword, what stands behind it, and a name. -/
theorem words_between
    {access front name : Text}
    {c : Char}
    (hAccess : IsOneWord access)
    (hStarts : startsBlank (front ++ [c]) = true)
    (hc : isBlank c = true)
    (hName : IsOneWord name) :
    Text.words (access ++ (front ++ [c]) ++ name) =
      access :: Text.words (front ++ [c]) ++ [name] := by
  have hSplit :
      access ++ (front ++ [c]) ++ name =
        access ++ front ++ c :: name := by
    simp
  have hOnly : ∀ d ∈ [c], isBlank d = true := by
    simpa using hc
  have hFront :
      Text.words (access ++ front) =
        access :: Text.words (front ++ [c]) := by
    rw [← Text.words_append_blanks hOnly, List.append_assoc]
    apply Text.words_append_of_blank hAccess.ne_nil hAccess.blank
    intro d hd
    rcases List.head?_eq_some_iff.mp hd with ⟨u, hEq⟩
    rw [hEq] at hStarts
    exact hStarts
  rw [hSplit, Text.words_append_cons hc, hFront, hName.words_eq]

/- The blanks before a name end what stands in front of it. -/
theorem blanks_before
    {access front name : Text}
    {c : Char}
    (hAccess : IsOneWord access)
    (hc : isBlank c = true)
    (hName : IsOneWord name) :
    ((access ++ (front ++ [c]) ++ name).reverse.dropWhile
        (!isBlank ·)).takeWhile isBlank =
      (front ++ [c]).reverse.takeWhile isBlank := by
  have hReverse :
      (access ++ (front ++ [c]) ++ name).reverse =
        name.reverse ++
          ((front ++ [c]).reverse ++ access.reverse) := by
    simp
  have hDrop :
      (name.reverse ++
            ((front ++ [c]).reverse ++ access.reverse)).dropWhile
          (!isBlank ·) =
        (front ++ [c]).reverse ++ access.reverse := by
    refine congrArg Prod.snd
      (Text.run_append (p := (!isBlank ·)) (fun d hd => ?_)
        fun d hd => ?_)
    · simp [hName.blank d (List.mem_reverse.mp hd)]
    · rw [List.reverse_append] at hd
      cases hd
      simp [hc]
  rcases List.exists_cons_of_ne_nil
    (List.reverse_ne_nil_iff.mpr hAccess.ne_nil) with
    ⟨d, rest, hEq⟩
  have hd : isBlank d = false := by
    apply hAccess.blank d
    rw [← List.mem_reverse, hEq]
    exact List.mem_cons_self
  rw [hReverse, hDrop, hEq, Text.takeWhile_append_cons hd]

/-
  Whether a head is read from a header: from the stretch
  between an access keyword and the first sign that is in no
  type.
-/
def IsHeadOf
    (modifierWords : List Text)
    (covered : Text)
    (head : MemberHead) : Prop :=
  ∃ access stretch sign rest,
    access ∈ Access.keywords ∧
      (∀ c ∈ stretch, isTypeChar c = true) ∧
      isTypeChar sign = false ∧
      covered = access ++ stretch ++ sign :: rest ∧
      ofStretch? modifierWords stretch = some head

namespace IsHeadOf

variable {modifierWords : List Text}
variable {covered : Text}
variable {head : MemberHead}

/- A header is written as keyword, front, blank and name. -/
theorem exists_written
    (h : IsHeadOf modifierWords covered head) :
    ∃ access front,
      access ∈ Access.keywords ∧
      written covered = access ++ front ++ head.name ∧
      startsBlank front = true ∧
      (∃ c, front.getLast? = some c ∧ isBlank c = true) ∧
      IsOneWord head.name ∧
      typeOf? modifierWords front =
        some (head.modifiers, head.type) := by
  rcases h with
    ⟨access, stretch, sign, rest, hAccess, hStretch, hSign, rfl,
      hHead⟩
  rcases exists_parts_of_ofStretch? hHead with
    ⟨front, blank, blanks, hEq, hBlank, hBlanks, hStarts, hName,
      hType⟩
  refine ⟨access, front ++ [blank], hAccess, ?_, hStarts,
    ⟨blank, by simp, hBlank⟩, hName, hType⟩
  have hOne := Access.isOneWord_of_mem hAccess
  have hTake :
      (access ++ stretch ++ sign :: rest).takeWhile isTypeChar =
        access ++ stretch := by
    refine congrArg Prod.fst
      (Text.run_append (fun c hc => ?_) fun c hc => ?_)
    · rcases List.mem_append.mp hc with hc | hc
      · simp [isTypeChar, hOne.word c hc]
      · exact hStretch c hc
    · cases hc
      exact hSign
  rw [written, hTake, hEq, ← List.append_assoc,
    ← List.append_assoc]
  apply Text.trimEnd_append hBlanks
  intro c hc
  rw [List.getLast?_append,
    List.getLast?_eq_some_getLast hName.ne_nil, Option.some_or,
    Option.some.injEq] at hc
  rw [← hc]
  exact hName.blank _ (List.getLast_mem hName.ne_nil)

/-
  So the words in front of the name are those of the text
  that modifiers and type are read from, and the blanks
  before the name are those at the end of that text.
-/
theorem exists_front
    (h : IsHeadOf modifierWords covered head) :
    ∃ front,
      typeOf? modifierWords front =
        some (head.modifiers, head.type) ∧
      innerWords covered = Text.words front ∧
      nameGap covered = front.reverse.takeWhile isBlank := by
  rcases h.exists_written with
    ⟨access, front, hAccess, hWritten, hStarts, ⟨c, hLast, hc⟩,
      hName, hType⟩
  have hOne := Access.isOneWord_of_mem hAccess
  rcases List.getLast?_eq_some_iff.mp hLast with ⟨f, rfl⟩
  refine ⟨f ++ [c], hType, ?_, ?_⟩
  · rw [innerWords, hWritten, words_between hOne hStarts hc hName,
      List.cons_append, List.tail_cons, List.dropLast_concat]
  · rw [nameGap, hWritten, blanks_before hOne hc hName]

/-
  The type of a head has the words that stand before the
  name, and is a single one as it is written. If there are
  none, it is missing or a modifier.
-/
theorem type_cases
    (h : IsHeadOf modifierWords covered head) :
    (typeWords modifierWords covered ≠ [] ∧
        Text.words head.type = typeWords modifierWords covered ∧
        ∀ w, typeWords modifierWords covered = [w] →
          head.type = w) ∨
      (LacksType modifierWords covered ∧ head.type = []) ∨
      (typeWords modifierWords covered = [] ∧
        ¬ LacksType modifierWords covered ∧
        head.type ∈ modifierWords) := by
  rcases h.exists_front with ⟨front, hType, hWords, hGap⟩
  have hEq :
      typeWords modifierWords covered =
        (Text.words front).dropWhile modifierWords.contains := by
    rw [typeWords, hWords]
  rcases typeOf?_cases hType with
    ⟨hSome, hSame, hOne⟩ | ⟨hNone, hLong, hNil⟩ |
      ⟨hNone, hShort, hMem⟩
  · rw [← hEq] at hSome hSame hOne
    exact Or.inl ⟨hSome, hSame, hOne⟩
  · rw [← hEq] at hNone
    rw [← hGap] at hLong
    exact Or.inr (Or.inl
      ⟨⟨typeWords_eq_nil_iff.mp hNone, hLong⟩, hNil⟩)
  · rw [← hEq] at hNone
    rw [← hGap] at hShort
    refine Or.inr (Or.inr ⟨hNone, fun hLacks => ?_, hMem⟩)
    exact Nat.not_le.mpr hShort hLacks.gap

/- A type is empty just if the header leaves it out. -/
theorem type_eq_nil_iff
    (hModifiers : [] ∉ modifierWords)
    (h : IsHeadOf modifierWords covered head) :
    head.type = [] ↔ LacksType modifierWords covered := by
  rcases h.type_cases with
    ⟨hSome, hSame, -⟩ | ⟨hLacks, hNil⟩ | ⟨-, hHas, hMem⟩
  · constructor
    · intro hNil
      rw [hNil] at hSame
      exact absurd hSame.symm hSome
    · intro hLacks
      exact absurd (typeWords_eq_nil_iff.mpr hLacks.words) hSome
  · exact iff_of_true hNil hLacks
  · refine iff_of_false (fun hNil => ?_) hHas
    rw [hNil] at hMem
    exact hModifiers hMem

end IsHeadOf

end MemberHead

------------------------------------------------------------
-- Heads In A Body
------------------------------------------------------------

/- A head is read from the stretch behind an access keyword. -/
theorem MemberHead.isHeadOf_of_read
    {modifierWords : List Text}
    {before : Option Char}
    {t access rest tail covered : Text}
    {sign : Char}
    {head : MemberHead}
    (hAccess : leadingAccess? before t = some (access, rest))
    (hSign : isTypeChar sign = false)
    (hHead :
      ofStretch? modifierWords (Text.run isTypeChar rest).1 =
        some head)
    (hCovered :
      covered =
        access ++ (Text.run isTypeChar rest).1 ++ sign :: tail) :
    IsHeadOf modifierWords covered head :=
  ⟨access, (Text.run isTypeChar rest).1, sign, tail,
    (of_leadingAccess? hAccess).2.1,
    fun _ hc => List.mem_takeWhile_imp hc, hSign, hCovered, hHead⟩

theorem MethodHeader.isHeadOf
    {body : Text}
    {o : Occurrence MethodHeader}
    (ho : o ∈ (body.cut reader).occurrences) :
    MemberHead.IsHeadOf modifierWords o.covered o.value.head := by
  rcases Text.exists_read_of_mem_cutFrom ho with
    ⟨before, u, hRead⟩
  simp only [reader, Option.bind_eq_bind,
    Option.bind_eq_some_iff, Prod.exists, Option.some.injEq]
    at hRead
  rcases hRead with
    ⟨access, rest, hAccess, _, _, _, _, head, hHead, hEq⟩
  rcases Prod.mk.inj hEq with ⟨hValue, hCovered⟩
  have hSign : MemberHead.isTypeChar '(' = false := by decide
  rw [← hValue]
  apply MemberHead.isHeadOf_of_read hAccess hSign hHead
  rw [← hCovered, List.append_assoc, List.append_assoc]
  rfl

theorem PropertyHeader.isHeadOf
    {body : Text}
    {o : Occurrence PropertyHeader}
    (ho : o ∈ (body.cut reader).occurrences) :
    MemberHead.IsHeadOf modifierWords o.covered o.value.head := by
  rcases Text.exists_read_of_mem_cutFrom ho with
    ⟨before, u, hRead⟩
  simp only [reader, Option.bind_eq_bind,
    Option.bind_eq_some_iff, Prod.exists, Option.some.injEq]
    at hRead
  rcases hRead with
    ⟨access, rest, hAccess, sign, hTerminator, head, hHead, hEq⟩
  rcases Prod.mk.inj hEq with ⟨hValue, hCovered⟩
  have hSign : MemberHead.isTypeChar sign = false := by
    have hEnds := (Option.filter_eq_some_iff.mp hTerminator).2
    simp only [isTerminator, Bool.or_eq_true, beq_iff_eq] at hEnds
    rcases hEnds with (rfl | rfl) | rfl <;> decide
  rw [← hValue]
  exact MemberHead.isHeadOf_of_read hAccess hSign hHead
    hCovered.symm

end SourceDocs
