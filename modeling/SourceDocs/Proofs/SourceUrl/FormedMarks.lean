import SourceDocs.Proofs.SourceUrl.FilledMarks

/-
  Marks that are formed by what is filled in.

  A text without braces that is a part of a mark can be
  filled in just where that part is missing. So a text that
  may not become a part of a mark, lest one be left in a URL
  that is built, does become one in some format.

  Key definitions include:
    * `SourceDocs.UrlTemplate.IsBare`
    * `SourceDocs.UrlTemplate.nested`

  Main results:
    * `SourceDocs.UrlTemplate.eq_of_infix_nested`
    * `SourceDocs.UrlTemplate.exists_nested_of_part`
    * `SourceDocs.UrlTemplate.exists_format_of_part`
-/

------------------------------------------------------------
-- Parts Of Marks
------------------------------------------------------------

namespace SourceDocs

namespace UrlTemplate

variable {mark part : Text}

/- Whether a text holds no brace. -/
def IsBare (t : Text) : Prop :=
  '\x7b' ∉ t ∧ '\x7d' ∉ t

theorem exists_name_of_mem_marks
    {mark : Text}
    (hMark : mark ∈ marks) :
    ∃ name, IsBare name ∧ mark = '\x7b' :: (name ++ ['\x7d']) := by
  have hNames :
      ∀ mark ∈ marks,
        let name := mark.tail.dropLast
        ('\x7b' ∉ name ∧ '\x7d' ∉ name) ∧
          mark = '\x7b' :: (name ++ ['\x7d']) := by
    decide
  exact ⟨_, hNames mark hMark⟩

/- A part of a mark without braces is a part of its name. -/
theorem infix_of_infix_mark
    {name : Text}
    (hPart : IsBare part)
    (h : part <:+: '\x7b' :: (name ++ ['\x7d'])) :
    part <:+: name := by
  have hNil : part <:+: [] → part <:+: name := by
    intro hEmpty
    rw [List.infix_nil.mp hEmpty]
    exact List.nil_infix
  rcases Text.infix_append_cons_cases (a := []) hPart.1 h with
    hEmpty | hBehind
  · exact hNil hEmpty
  · rcases Text.infix_append_cons_cases hPart.2 hBehind with
      hName | hEmpty
    · exact hName
    · exact hNil hEmpty

------------------------------------------------------------
-- Marks Within Names
------------------------------------------------------------

section Nested

variable {front back name : Text}

/- A name with a mark in place of a part of it. -/
def nested (front mark back : Text) : Text :=
  '\x7b' :: (front ++ (mark ++ (back ++ ['\x7d'])))

/- That mark is the only one there. -/
theorem eq_of_infix_nested
    {other : Text}
    (hFront : IsBare front)
    (hBack : IsBare back)
    (hMark : mark ∈ marks)
    (hOther : other ∈ marks)
    (h : other <:+: nested front mark back) : other = mark := by
  rcases exists_name_of_mem_marks hMark with ⟨m, hm, rfl⟩
  rcases exists_name_of_mem_marks hOther with ⟨n, hn, rfl⟩
  rcases h with ⟨p, q, hEq⟩
  simp only [nested, List.append_assoc, List.cons_append,
    List.nil_append] at hEq
  cases p with
  | nil =>
      rw [List.nil_append, List.cons.injEq] at hEq
      rcases Text.append_mark_cases hFront.1 hEq.2 with
        ⟨a, hIn, -⟩ | ⟨a, hIn, hBehind⟩
      · exact absurd (by simp [hIn]) hn.1
      · cases a with
        | nil => simp at hBehind
        | cons c a =>
            rw [List.cons_append, List.cons.injEq] at hBehind
            exact absurd (by simp [hIn, ← hBehind.1]) hFront.2
  | cons c p =>
      rw [List.cons_append, List.cons.injEq] at hEq
      rcases Text.append_mark_cases hFront.1 hEq.2 with
        ⟨a, -, hIn⟩ | ⟨a, hIn, hBehind⟩
      · have hMem : '\x7b' ∈ m ++ '\x7d' :: (back ++ ['\x7d']) := by
          simp [hIn]
        simp [hm.1, hBack.1] at hMem
      · cases a with
        | nil =>
            rw [List.nil_append, List.cons.injEq] at hBehind
            rw [(Text.append_mark_inj hn.2 hm.2 hBehind.2).1]
        | cons c a =>
            rw [List.cons_append, List.cons.injEq] at hBehind
            exact absurd (by simp [hIn, ← hBehind.1]) hFront.1

/- Other marks are filled in nowhere. -/
theorem replaceAll_nested_of_ne
    {other : Text}
    (hFront : IsBare front)
    (hBack : IsBare back)
    (hMark : mark ∈ marks)
    (hOther : other ∈ marks)
    (hNe : other ≠ mark)
    (part : Text) :
    Text.replaceAll other part (nested front mark back) =
      nested front mark back :=
  Text.replaceAll_of_not_infix
    (fun h => hNe (eq_of_infix_nested hFront hBack hMark hOther h))
    part

/- Filling it in leaves the name with the part. -/
theorem replaceAll_nested
    (hFront : IsBare front)
    (hBack : IsBare back)
    (hMark : mark ∈ marks)
    (part : Text) :
    Text.replaceAll mark part (nested front mark back) =
      '\x7b' :: (front ++ part ++ back ++ ['\x7d']) := by
  rcases exists_name_of_mem_marks hMark with ⟨m, hm, rfl⟩
  have hStart :
      ∀ s, s <:+ '\x7b' :: front → s ≠ [] →
        ¬ '\x7b' :: (m ++ ['\x7d']) <+:
          s ++ (('\x7b' :: (m ++ ['\x7d'])) ++
            (back ++ ['\x7d'])) := by
    intro s hs hne
    rcases List.suffix_cons_iff.mp hs with rfl | hs
    · rw [List.cons_append, List.cons_prefix_cons]
      rintro ⟨-, hPrefix⟩
      refine Text.not_prefix_append_cons ?_ ?_ List.suffix_rfl _
        hPrefix
      · simp [hm.1]
      · exact fun hIn => hFront.2 (hIn.subset (by simp))
    · exact Text.not_prefix_append_of_not_mem hFront.1 hs hne _
  have hEnd :
      ¬ '\x7b' :: (m ++ ['\x7d']) <:+: back ++ ['\x7d'] := by
    intro hIn
    have hMem := hIn.subset List.mem_cons_self
    simp [hBack.1] at hMem
  have hWhole := @Text.replaceAll_append _ part _ _ hStart
  rw [Text.replaceAll_mark_append (List.cons_ne_nil _ _),
    Text.replaceAll_of_not_infix hEnd] at hWhole
  simpa only [nested, List.append_assoc, List.cons_append]
    using hWhole

/- So it leaves each mark that the part is a part of. -/
theorem exists_nested_of_part
    {whole : Text}
    (hWhole : whole ∈ marks)
    (hPart : IsBare part)
    (hIn : part <:+: whole) :
    ∃ front back, IsBare front ∧ IsBare back ∧
      ∀ mark ∈ marks,
        Text.replaceAll mark part (nested front mark back) =
          whole := by
  rcases exists_name_of_mem_marks hWhole with ⟨m, hm, rfl⟩
  rcases infix_of_infix_mark hPart hIn with ⟨front, back, rfl⟩
  simp only [IsBare, List.mem_append, not_or] at hm
  have hFront : IsBare front := ⟨hm.1.1.1, hm.2.1.1⟩
  have hBack : IsBare back := ⟨hm.1.2, hm.2.2⟩
  exact ⟨front, back, hFront, hBack,
    fun mark hMark => replaceAll_nested hFront hBack hMark part⟩

end Nested

/- A mark is left alone where another one is filled in. -/
theorem replaceAll_mark_of_ne
    {other : Text}
    (hMark : mark ∈ marks)
    (hOther : other ∈ marks)
    (hNe : other ≠ mark)
    (part : Text) : Text.replaceAll other part mark = mark := by
  have hApart :
      ∀ mark ∈ marks, ∀ other ∈ marks,
        other <:+: mark → other = mark := by
    decide
  exact Text.replaceAll_of_not_infix
    (fun h => hNe (hApart mark hMark other hOther h)) part

------------------------------------------------------------
-- Whole URLs
------------------------------------------------------------

/-
  No condition on a text that is filled in is too strong: one
  without braces that may become a part of a mark does so in
  some format, whatever the line and the other texts are.
-/
theorem exists_format_of_part
    (repository own branch path : Text)
    (n : Nat)
    (hPart :
      (IsBare repository ∧
        ∃ mark ∈ [repositoryMark, lineMark],
          repository <:+: mark) ∨
      (IsBare branch ∧
        ∃ mark ∈ [repositoryMark, branchMark, lineMark],
          branch <:+: mark) ∨
      (IsBare (path.dropWhile (· == '/')) ∧
        ∃ mark ∈ marks, path.dropWhile (· == '/') <:+: mark)) :
    ∃ format, ∃ mark ∈ marks,
      mark <:+:
        buildOn ⟨repository, own, format⟩ branch path (some n) := by
  have hRepositoryMark : repositoryMark ∈ marks := by decide
  have hBranchMark : branchMark ∈ marks := by decide
  have hPathMark : pathMark ∈ marks := by decide
  have hLineMark : lineMark ∈ marks := by decide
  rcases hPart with
    ⟨hBare, mark, hMem, hIn⟩ | ⟨hBare, mark, hMem, hIn⟩ |
      ⟨hBare, mark, hMark, hIn⟩
  · have hSpec :
        ∀ mark ∈ [repositoryMark, lineMark],
          mark ∈ marks ∧ branchMark ≠ mark ∧ pathMark ≠ mark := by
      decide
    rcases hSpec mark hMem with ⟨hMark, hBranch, hPath⟩
    rcases exists_nested_of_part hMark hBare hIn with
      ⟨front, back, hFront, hBack, hFilled⟩
    refine ⟨nested front repositoryMark back, mark, hMark, ?_⟩
    rw [buildOn, fillLine,
      replaceAll_nested_of_ne hFront hBack hRepositoryMark
        hLineMark (by decide),
      hFilled _ hRepositoryMark,
      replaceAll_mark_of_ne hMark hBranchMark hBranch,
      replaceAll_mark_of_ne hMark hPathMark hPath]
  · have hSpec :
        ∀ mark ∈ [repositoryMark, branchMark, lineMark],
          mark ∈ marks ∧ pathMark ≠ mark := by
      decide
    rcases hSpec mark hMem with ⟨hMark, hPath⟩
    rcases exists_nested_of_part hMark hBare hIn with
      ⟨front, back, hFront, hBack, hFilled⟩
    refine ⟨nested front branchMark back, mark, hMark, ?_⟩
    rw [buildOn, fillLine,
      replaceAll_nested_of_ne hFront hBack hBranchMark hLineMark
        (by decide),
      replaceAll_nested_of_ne hFront hBack hBranchMark
        hRepositoryMark (by decide),
      hFilled _ hBranchMark,
      replaceAll_mark_of_ne hMark hPathMark hPath]
  · rcases exists_nested_of_part hMark hBare hIn with
      ⟨front, back, hFront, hBack, hFilled⟩
    refine ⟨nested front pathMark back, mark, hMark, ?_⟩
    rw [buildOn, fillLine,
      replaceAll_nested_of_ne hFront hBack hPathMark hLineMark
        (by decide),
      replaceAll_nested_of_ne hFront hBack hPathMark
        hRepositoryMark (by decide),
      replaceAll_nested_of_ne hFront hBack hPathMark hBranchMark
        (by decide),
      hFilled _ hPathMark]

end UrlTemplate

end SourceDocs
