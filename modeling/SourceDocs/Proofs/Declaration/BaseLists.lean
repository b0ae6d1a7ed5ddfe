import SourceDocs.Proofs.Declaration.ParameterLists
import SourceDocs.Proofs.Declaration.TopLevelParts
import SourceDocs.Proofs.Text.WholeWords

/-
  Lists of base types with constraints behind them.

  The first entry that is not called like an interface is the
  base, and the others are the interfaces in their order. The
  list is meant to end at the word that constrains its type.
  But only a space on either side of the word makes it do so:
  with any other blank next to it, the word stays in an entry.

  Key definitions include:
    * `SourceDocs.BaseList.IsBasePart`
    * `SourceDocs.BaseList.beforeConstraints`

  Main results:
    * `SourceDocs.Text.splitTopLevel_join_comma`
    * `SourceDocs.BaseList.ofText_constrained_eq_iff`
    * `SourceDocs.BaseList.ofText_join_and_constrained`
-/

------------------------------------------------------------
-- Split Lists
------------------------------------------------------------

namespace SourceDocs

namespace Text

/- Bracketed texts are the parts of the list they make. -/
theorem splitTopLevel_join_comma
    {ts : List Text}
    (hNil : ts ≠ [])
    (hParts : ∀ t ∈ ts, IsBracketed t) :
    splitTopLevel (join [','] ts) = ts := by
  have hEnclosed : ∀ t ∈ ts, IsEnclosed 0 t :=
    fun t ht => (hParts t ht).isEnclosed
  have hClosed : ∀ t ∈ ts.dropLast, depthAfter 0 t = 0 :=
    fun t ht => (hParts t (List.dropLast_subset _ ht)).depthAfter_eq
  exact (arePartsOf_join hNil hEnclosed hClosed).splitTopLevel_eq

/- No word is lost where a list is split. -/
theorem exists_mem_splitFrom_iff
    {w : Text}
    (depth : Nat)
    (part t : Text) :
    (∃ u ∈ splitFrom depth part t, w ∈ wordRuns u) ↔
      w ∈ wordRuns (part.reverse ++ t) := by
  induction t generalizing depth part with
  | nil => simp [splitFrom]
  | cons c t ih =>
      rcases comma_cases depth c with ⟨rfl, rfl⟩ | hc
      · have hRest := ih 0 []
        rw [splitFrom_comma, wordRuns_append_cons (by decide),
          List.mem_append, ← List.nil_append t,
          ← List.reverse_nil, ← hRest]
        simp [splitTopLevel]
      · rw [splitFrom_cons hc, ih, List.reverse_cons,
          List.append_assoc, List.singleton_append]

/- Blanks behind a list make no difference to its parts. -/
theorem map_trim_splitFrom_append
    {b : Text}
    (hb : ∀ c ∈ b, isBlank c = true)
    (depth : Nat)
    (part t : Text) :
    (splitFrom depth part (t ++ b)).map trim =
      (splitFrom depth part t).map trim := by
  induction t generalizing depth part with
  | nil =>
      have hPlain : IsPlain b := isPlain_of_forall (by decide) hb
      have hSplit :=
        splitFrom_append_of_isEnclosed (hPlain.isEnclosed depth)
          part []
      have hTrim := trim_blanks (a := []) (by simp) hb part.reverse
      rw [List.append_nil] at hSplit
      rw [List.nil_append] at hTrim
      rw [List.nil_append, hSplit, splitFrom, splitFrom,
        List.reverse_append, List.reverse_reverse,
        List.map_singleton, List.map_singleton, hTrim]
  | cons c t ih =>
      rw [List.cons_append]
      rcases comma_cases depth c with ⟨rfl, rfl⟩ | hc
      · rw [splitFrom_comma, splitFrom_comma, List.map_cons,
          List.map_cons, splitTopLevel, splitTopLevel, ih]
      · rw [splitFrom_cons hc, splitFrom_cons hc, ih]

end Text

------------------------------------------------------------
-- Constraints
------------------------------------------------------------

namespace BaseList

/- The word that constrains a type. -/
def constraintWord : Text :=
  "where".toList

/- What a list is cut at: the word between two spaces. -/
def constraintMark : Text :=
  " where ".toList

/- A list up to the place where it is cut. -/
def beforeConstraints (t : Text) : Text :=
  match Text.cutAt? constraintMark t with
  | some (before, _) => before
  | none => t

variable {t a b clause : Text}

theorem entries_eq (t : Text) :
    entries t =
      ((Text.splitTopLevel (beforeConstraints t)).map
        Text.trim).filter (· ≠ []) :=
  rfl

theorem isWord_of_mem_constraintWord :
    ∀ c ∈ constraintWord, isWord c = true := by
  decide

theorem append_constraintMark_append
    (a b : Text) :
    a ++ (constraintMark ++ b) =
      (a ++ [' ']) ++ (constraintWord ++ ' ' :: b) := by
  have hMark :
      constraintMark = [' '] ++ (constraintWord ++ [' ']) := by
    decide
  rw [hMark, List.append_assoc, List.append_assoc,
    List.append_assoc]
  rfl

theorem endsWord_concat_space
    (a : Text) : Text.EndsWord (a ++ [' ']) := by
  intro c hc
  rw [List.getLast?_concat, Option.some.injEq] at hc
  rw [← hc]
  decide

theorem startsNoWord_cons_space
    (b : Text) : Text.StartsNoWord (' ' :: b) := by
  intro c hc
  cases hc
  decide

/- The word is in an entry if it stands before the cut. -/
theorem exists_mem_entries_iff :
    (∃ e ∈ entries t, constraintWord ∈ Text.wordRuns e) ↔
      constraintWord ∈ Text.wordRuns (beforeConstraints t) := by
  have hNil : constraintWord ≠ [] := by decide
  have hSplit :=
    Text.exists_mem_splitFrom_iff (w := constraintWord) 0 []
      (beforeConstraints t)
  rw [List.reverse_nil, List.nil_append] at hSplit
  rw [← hSplit, entries_eq, Text.splitTopLevel]
  constructor
  · rintro ⟨e, he, hMem⟩
    rcases List.mem_map.mp (List.mem_filter.mp he).1 with
      ⟨part, hPart, rfl⟩
    exact ⟨part, hPart, (Text.mem_wordRuns_trim hNil).mp hMem⟩
  · rintro ⟨part, hPart, hMem⟩
    have hTrim := (Text.mem_wordRuns_trim hNil).mpr hMem
    refine ⟨Text.trim part, List.mem_filter.mpr
      ⟨List.mem_map_of_mem hPart, ?_⟩, hTrim⟩
    have hSome : Text.trim part ≠ [] := by
      intro hEmpty
      rw [hEmpty] at hTrim
      exact hNil (List.mem_singleton.mp hTrim)
    simpa using hSome

/- A list without the word is not cut. -/
theorem beforeConstraints_eq_self
    (hWord : constraintWord ∉ Text.wordRuns t) :
    beforeConstraints t = t := by
  have hNone : Text.cutAt? constraintMark t = none := by
    rw [Text.cutAt?_eq_none_iff]
    rintro ⟨a, b, rfl⟩
    rw [List.append_assoc, append_constraintMark_append] at hWord
    exact hWord
      (Text.mem_wordRuns_append_word isWord_of_mem_constraintWord
        (endsWord_concat_space a) (startsNoWord_cons_space b))
  rw [beforeConstraints, hNone]

theorem mem_wordRuns_concat_space :
    constraintWord ∈ Text.wordRuns (a ++ [' ']) ↔
      constraintWord ∈ Text.wordRuns a :=
  Text.mem_wordRuns_append_signs (by decide) (by decide) a

/- The mark starts nowhere before the first place of the word. -/
theorem not_constraintMark_prefix
    {s : Text}
    (hWord : constraintWord ∉ Text.wordRuns a)
    (hs : s <:+ a)
    (hne : s ≠ []) :
    ¬ constraintMark <+: s ++ (constraintMark ++ clause) := by
  rintro ⟨q, hq⟩
  rcases hs with ⟨p, rfl⟩
  rcases List.exists_cons_of_ne_nil hne with ⟨c, s, rfl⟩
  have hHead : ' ' = c := (List.cons.inj hq).1
  subst hHead
  have hBefore : constraintWord ∉ Text.wordRuns p := by
    rw [Text.wordRuns_append_cons (by decide)] at hWord
    exact fun hMem => hWord (List.mem_append_left _ hMem)
  have hBoth :
      p ++ (constraintMark ++ q) =
        p ++ (' ' :: s ++ (constraintMark ++ clause)) :=
    congrArg (p ++ ·) hq
  rw [append_constraintMark_append, ← List.append_assoc p,
    append_constraintMark_append] at hBoth
  have hSame : p ++ [' '] = p ++ ' ' :: s ++ [' '] :=
    Text.eq_of_append_word_eq isWord_of_mem_constraintWord
      (endsWord_concat_space _) (endsWord_concat_space _)
      (startsNoWord_cons_space q) (startsNoWord_cons_space clause)
      (fun hMem => hBefore (mem_wordRuns_concat_space.mp hMem))
      (fun hMem => hWord (mem_wordRuns_concat_space.mp hMem))
      hBoth
  simp at hSame

/- The first place of the word is cut at between two spaces. -/
theorem beforeConstraints_append
    (hWord : constraintWord ∉ Text.wordRuns a)
    (clause : Text) :
    beforeConstraints (a ++ (constraintMark ++ clause)) = a := by
  have hCut :
      Text.cutAt? constraintMark (a ++ (constraintMark ++ clause)) =
        some (a ++ [], clause) := by
    rw [Text.cutAt?_append_of_not_prefix fun _ hs hne =>
        not_constraintMark_prefix hWord hs hne,
      Text.cutAt?_mark_append]
    rfl
  rw [beforeConstraints, hCut]
  exact List.append_nil a

/- If it is cut off, there is a space on either side of it. -/
theorem spaces_of_not_mem_wordRuns
    (ha : Text.EndsWord a)
    (hb : Text.StartsNoWord b)
    (hWord : constraintWord ∉ Text.wordRuns a)
    (hCutOff :
      constraintWord ∉
        Text.wordRuns
          (beforeConstraints (a ++ (constraintWord ++ b)))) :
    a.getLast? = some ' ' ∧ b.head? = some ' ' := by
  rw [beforeConstraints] at hCutOff
  cases hCut :
      Text.cutAt? constraintMark (a ++ (constraintWord ++ b)) with
  | none =>
      rw [hCut] at hCutOff
      exact absurd
        (Text.mem_wordRuns_append_word
          isWord_of_mem_constraintWord ha hb) hCutOff
  | some parts =>
      rcases parts with ⟨before, rest⟩
      rw [hCut] at hCutOff
      have hEq := Text.eq_append_of_cutAt? hCut
      rw [append_constraintMark_append] at hEq
      have hSame : a = before ++ [' '] :=
        Text.eq_of_append_word_eq isWord_of_mem_constraintWord ha
          (endsWord_concat_space before) hb
          (startsNoWord_cons_space rest) hWord
          (fun hMem =>
            hCutOff (mem_wordRuns_concat_space.mp hMem))
          hEq
      rw [hSame, List.append_cancel_left_eq,
        List.append_cancel_left_eq] at hEq
      rw [hSame, hEq]
      exact ⟨List.getLast?_concat, rfl⟩

/-
  What the word and the text behind it add to a list is
  nothing just if a space is on either side of the word.
-/
theorem ofText_constrained_eq_iff
    {list w₁ w₂ : Text}
    (hWord : constraintWord ∉ Text.wordRuns list)
    (h₁ : Text.IsGap w₁)
    (h₂ : Text.IsGap w₂)
    (clause : Text) :
    ofText (list ++ w₁ ++ (constraintWord ++ (w₂ ++ clause))) =
        ofText list ↔
      w₁.getLast? = some ' ' ∧ w₂.head? = some ' ' := by
  have hNil : constraintWord ≠ [] := by decide
  have hSelf := beforeConstraints_eq_self hWord
  have hFront :
      ∀ w : Text, (∀ c ∈ w, isBlank c = true) →
        constraintWord ∉ Text.wordRuns (list ++ w) := by
    intro w hw
    rwa [Text.mem_wordRuns_append_signs hNil fun c hc =>
      isWord_of_isBlank (hw c hc)]
  constructor
  · intro hSame
    rw [← h₁.getLast?_append list, ← h₂.head?_append clause]
    refine spaces_of_not_mem_wordRuns (h₁.endsWord list)
      (h₂.startsNoWord clause) (hFront w₁ h₁.blank) ?_
    -- The word would be in an entry of the list itself.
    rw [← exists_mem_entries_iff]
    rintro ⟨e, he, hMem⟩
    rw [mem_entries_iff, hSame, ← mem_entries_iff] at he
    have hIn := exists_mem_entries_iff.mp ⟨e, he, hMem⟩
    rw [hSelf] at hIn
    exact hWord hIn
  · rintro ⟨hLast, hHead⟩
    rcases List.getLast?_eq_some_iff.mp hLast with ⟨w, rfl⟩
    rcases List.head?_eq_some_iff.mp hHead with ⟨w', rfl⟩
    have hw : ∀ c ∈ w, isBlank c = true := fun c hc =>
      h₁.blank c (List.mem_append_left _ hc)
    have hText :
        list ++ (w ++ [' ']) ++
            (constraintWord ++ (' ' :: w' ++ clause)) =
          list ++ w ++ (constraintMark ++ (w' ++ clause)) := by
      rw [append_constraintMark_append]
      simp
    have hEntries :
        entries (list ++ w ++ (constraintMark ++ (w' ++ clause))) =
          entries list := by
      rw [entries_eq, entries_eq, hSelf,
        beforeConstraints_append (hFront w hw), Text.splitTopLevel,
        Text.map_trim_splitFrom_append hw, ← Text.splitTopLevel]
    rw [hText, ofText, hEntries, ← ofText]

------------------------------------------------------------
-- Written Lists
------------------------------------------------------------

/-
  Whether a part of a list gives an entry: it is not blank,
  its brackets are nested, and its commas stand within them.
-/
structure IsBasePart (part : Text) : Prop where
  written : Text.trim part ≠ []
  bracketed : Text.IsBracketed part

instance (part : Text) : Decidable (IsBasePart part) :=
  decidable_of_iff
    (Text.trim part ≠ [] ∧ Text.IsBracketed part)
    ⟨fun h => ⟨h.1, h.2⟩, fun h => ⟨h.written, h.bracketed⟩⟩

/- The entries of such parts are what trimming leaves. -/
theorem entries_join_comma
    {parts : List Text}
    (hParts : ∀ part ∈ parts, IsBasePart part)
    (hWord :
      constraintWord ∉ Text.wordRuns (Text.join [','] parts)) :
    entries (Text.join [','] parts) = parts.map Text.trim := by
  by_cases hNil : parts = []
  · subst hNil
    rfl
  rw [entries_eq, beforeConstraints_eq_self hWord,
    Text.splitTopLevel_join_comma hNil
      fun part h => (hParts part h).bracketed,
    List.filter_eq_self]
  intro entry hEntry
  rcases List.mem_map.mp hEntry with ⟨part, hPart, rfl⟩
  simpa using (hParts part hPart).written

/-
  A list of bases keeps all of its entries, the first that is
  not called like an interface as the base. A constraint leaks
  into it unless the blanks in front of its word end in a
  space and those behind it start with one.
-/
theorem ofText_join_and_constrained
    {parts : List Text}
    (hParts : ∀ part ∈ parts, IsBasePart part)
    (hWord :
      constraintWord ∉ Text.wordRuns (Text.join [','] parts)) :
    let list : Text := Text.join [','] parts
    ofText list =
        ⟨(parts.map Text.trim).find? (!isInterfaceName ·),
          (parts.map Text.trim).eraseP (!isInterfaceName ·)⟩ ∧
      ∀ w₁ w₂ clause : Text, Text.IsGap w₁ → Text.IsGap w₂ →
        (ofText (list ++ w₁ ++ (constraintWord ++ (w₂ ++ clause))) =
            ofText list ↔
          w₁.getLast? = some ' ' ∧ w₂.head? = some ' ') := by
  intro list
  refine ⟨?_, fun w₁ w₂ clause h₁ h₂ =>
    ofText_constrained_eq_iff hWord h₁ h₂ clause⟩
  rw [ofText_eq, entries_join_comma hParts hWord]

/- Commas in brackets part no entry, nor do ends of lines. -/
theorem ofText_join_and_constrained_nested :
    let parts : List Text :=
      ["IHandler<A, IList<(B, C)[]>>".toList,
       " Entity<T>".toList,
       "\n    Index ".toList,
       " IOrder ".toList]
    let list : Text := Text.join [','] parts
    let constrained : Text :=
      list ++ "\n    ".toList ++
        (constraintWord ++ (" \t".toList ++ "T : new()".toList))
    (∀ part ∈ parts, IsBasePart part) ∧
      constraintWord ∉ Text.wordRuns list ∧
      ofText list =
        ⟨some "Entity<T>".toList,
          ["IHandler<A, IList<(B, C)[]>>".toList, "Index".toList,
           "IOrder".toList]⟩ ∧
      ofText constrained = ofText list := by
  intro parts list constrained
  have hParts : ∀ part ∈ parts, IsBasePart part := by
    decide +kernel
  have hWord : constraintWord ∉ Text.wordRuns list := by
    decide +kernel
  rcases ofText_join_and_constrained hParts hWord with
    ⟨hList, hConstrained⟩
  have hEntries :
      (⟨(parts.map Text.trim).find? (!isInterfaceName ·),
          (parts.map Text.trim).eraseP (!isInterfaceName ·)⟩ :
          BaseList) =
        ⟨some "Entity<T>".toList,
          ["IHandler<A, IList<(B, C)[]>>".toList, "Index".toList,
           "IOrder".toList]⟩ := by
    decide +kernel
  exact ⟨hParts, hWord, hList.trans hEntries,
    (hConstrained "\n    ".toList " \t".toList "T : new()".toList
      (by decide) (by decide)).mpr (by decide)⟩

/-
  A constraint on a line of its own, behind a tab: its word
  stays in the entry before it, and the list goes on behind.
-/
theorem ofText_constrained_leaks :
    let parts : List Text := ["Entity".toList, " IFoo".toList]
    let list : Text := Text.join [','] parts
    let gap : Text := "\n\t".toList
    let clause : Text := "T : class, new()".toList
    (∀ part ∈ parts, IsBasePart part) ∧
      constraintWord ∉ Text.wordRuns list ∧
      Text.IsGap gap ∧ Text.IsGap [' '] ∧
      ofText list = ⟨some "Entity".toList, ["IFoo".toList]⟩ ∧
      ofText (list ++ gap ++ (constraintWord ++ ([' '] ++ clause))) =
        ⟨some "Entity".toList,
          ["IFoo\n\twhere T : class".toList, "new()".toList]⟩ := by
  decide +kernel

end BaseList

end SourceDocs
