import Mathlib.Data.List.Infix
import SourceDocs.Proofs.SourceUrl.Templates
import SourceDocs.Proofs.Text.Numerals

/-
  Whether a mark is left in a URL that is built.

  The marks of a format are filled in one after another. What
  is filled in holds no brace, so a mark that stands in the
  result either stood in one piece before, or what was filled
  in is a part of it. So no mark is left that was filled in
  by a text that is a part of none.

  Key definitions include:
    * `SourceDocs.UrlTemplate.IsMark`
    * `SourceDocs.UrlTemplate.IsApartFrom`

  Main results:
    * `SourceDocs.UrlTemplate.infix_of_infix_replaceAll`
    * `SourceDocs.UrlTemplate.not_infix_replaceAll`
    * `SourceDocs.UrlTemplate.not_mark_infix_buildOn`
-/

------------------------------------------------------------
-- Marks
------------------------------------------------------------

namespace SourceDocs

namespace UrlTemplate

/- Whether a text is a name between two braces. -/
def IsMark (mark : Text) : Prop :=
  ∃ name, mark = '\x7b' :: (name ++ ['\x7d'])

/- The marks of a format. -/
def marks : List Text :=
  [repositoryMark, branchMark, pathMark, lineMark]

theorem isMark_of_mem_marks
    {mark : Text}
    (hMark : mark ∈ marks) : IsMark mark := by
  simp only [marks, List.mem_cons, List.not_mem_nil, or_false]
    at hMark
  rcases hMark with rfl | rfl | rfl | rfl
  · exact ⟨"repo_url".toList, rfl⟩
  · exact ⟨"branch".toList, rfl⟩
  · exact ⟨"file_path".toList, rfl⟩
  · exact ⟨"line".toList, rfl⟩

/-
  Whether a text can be filled in without becoming a part of
  one of these marks: it holds no brace, and it is not a part
  of the mark itself, as the empty text is.
-/
structure IsApartFrom
    (part : Text)
    (marks : List Text) : Prop where
  opening : '\x7b' ∉ part
  closing : '\x7d' ∉ part
  notPart : ∀ mark ∈ marks, ¬ part <:+: mark

instance (part : Text) (marks : List Text) :
    Decidable (IsApartFrom part marks) :=
  decidable_of_iff
    ('\x7b' ∉ part ∧ '\x7d' ∉ part ∧
      ∀ mark ∈ marks, ¬ part <:+: mark)
    ⟨fun h => ⟨h.1, h.2.1, h.2.2⟩,
     fun h => ⟨h.opening, h.closing, h.notPart⟩⟩

/- The number of a line is made of digits, as no mark is. -/
theorem isApartFrom_ofNat (n : Nat) :
    IsApartFrom (Text.ofNat n) marks := by
  have hDigit :
      ∀ c ∈ Text.ofNat n, isAsciiDigit c = true :=
    fun _ hc => Text.isAsciiDigit_of_mem_ofNat hc
  refine ⟨fun hc => ?_, fun hc => ?_, fun mark hMark hPart => ?_⟩
  · exact absurd (hDigit _ hc) (by decide)
  · exact absurd (hDigit _ hc) (by decide)
  · have hNone :
        ∀ mark ∈ marks, ∀ c ∈ mark, isAsciiDigit c = false := by
      decide
    have hNil : Text.ofNat n ≠ [] := Nat.toDigits_ne_nil
    rcases List.exists_mem_of_ne_nil _ hNil with ⟨c, hMem⟩
    have hNot := hNone mark hMark c (hPart.subset hMem)
    rw [hDigit c hMem] at hNot
    cases hNot

------------------------------------------------------------
-- What Is Left Of Them
------------------------------------------------------------

variable {mark part : Text}
variable {ms : List Text}

/- A mark that starts before what is filled in ends there. -/
theorem prefix_of_prefix_append
    (hMark : IsMark mark)
    (hPart : IsApartFrom part ms)
    (hMem : mark ∈ ms)
    {a b : Text}
    (h : mark <+: a ++ (part ++ b)) : mark <+: a := by
  rcases Text.prefix_append_cases h with hIn | ⟨s, hEq, hs⟩
  · exact hIn
  rcases Text.prefix_append_cases hs with hIn | ⟨u, rfl, -⟩
  · have hLast : mark.getLast? = some '\x7d' := by
      rcases hMark with ⟨name, rfl⟩
      rw [← List.cons_append, List.getLast?_concat]
    have hNot : '\x7d' ∉ s :=
      fun hc => hPart.closing (hIn.subset hc)
    exact Text.prefix_of_prefix_append hLast hNot
      ⟨[], by rw [List.append_nil, hEq]⟩
  · refine absurd ?_ (hPart.notPart mark hMem)
    exact ⟨a, u, by rw [List.append_assoc, hEq]⟩

/- So it stands on one side of it. -/
theorem infix_append_cases
    (hMark : IsMark mark)
    (hPart : IsApartFrom part ms)
    (hMem : mark ∈ ms)
    {a b : Text}
    (h : mark <:+: a ++ (part ++ b)) :
    mark <:+: a ∨ mark <:+: b := by
  rcases List.infix_iff_prefix_suffix.mp h with ⟨s, hFront, hBack⟩
  rcases Text.suffix_append_cases hBack with hIn | ⟨u, rfl, hu⟩
  · right
    rcases Text.suffix_append_cases hIn with hIn | ⟨u, rfl, hu⟩
    · exact hFront.isInfix.trans hIn.isInfix
    · cases u with
      | nil => exact hFront.isInfix
      | cons c u =>
          rcases hMark with ⟨name, rfl⟩
          rw [List.cons_append, List.cons_prefix_cons] at hFront
          refine absurd (hu.subset ?_) hPart.opening
          rw [hFront.1]
          exact List.mem_cons_self
  · left
    have hIn := prefix_of_prefix_append hMark hPart hMem hFront
    exact hIn.isInfix.trans hu.isInfix

/- A text does not stand in a front that it starts nowhere. -/
theorem not_infix_of_skips
    {old a t : Text}
    (hOld : old ≠ [])
    (hSkips :
      ∀ s, s <:+ a → s ≠ [] →
        (Reader.literal old).Skips (s ++ t)) :
    ¬ old <:+: a := by
  intro h
  rcases List.infix_iff_prefix_suffix.mp h with ⟨s, hFront, hBack⟩
  have hNil : s ≠ [] := by
    rintro rfl
    exact hOld (List.prefix_nil.mp hFront)
  exact (Reader.literal_skips_iff hOld).mp (hSkips s hBack hNil)
    (hFront.trans (List.prefix_append s t))

/-
  A mark that stands in a text after one is filled in stood
  there before, and it is another one.
-/
theorem infix_of_infix_replaceAll
    {old : Text}
    (hOld : old ≠ [])
    (hMark : IsMark mark)
    (hPart : IsApartFrom part ms)
    (hMem : mark ∈ ms)
    {t : Text}
    (h : mark <:+: Text.replaceAll old part t) :
    mark <:+: t ∧ mark ≠ old := by
  have hSteady := Reader.literal_steady old
  have hCut := Text.cutsTo_cut hSteady t
  change mark <:+:
    Text.replaced (Reader.literal old) (fun _ => part) t at h
  -- By the occurrences: the gaps are as they were, and the old
  -- text stands in none of them.
  generalize (t.cut (Reader.literal old)).occurrences = os at hCut
  generalize (t.cut (Reader.literal old)).rest = r at hCut
  induction hCut with
  | rest hSkips =>
      rw [Text.replaced_of_skips hSteady _ hSkips] at h
      refine ⟨h, ?_⟩
      rintro rfl
      exact not_infix_of_skips (t := []) hOld
        (by simpa using hSkips) h
  | @next gap x u _ _ _ hGap hFound hCovers _ ih =>
      rw [Text.replaced_of_found hSteady _ hGap hFound hCovers]
        at h
      rcases infix_append_cases hMark hPart hMem h with
        hIn | hIn
      · refine ⟨hIn.trans (List.prefix_append gap _).isInfix, ?_⟩
        rintro rfl
        exact not_infix_of_skips hOld hGap hIn
      · rcases ih hIn with ⟨hBehind, hNe⟩
        refine ⟨hBehind.trans ?_, hNe⟩
        rw [← List.append_assoc]
        exact (List.suffix_append (gap ++ x) u).isInfix

/- So a mark is gone once it is filled in. -/
theorem not_infix_replaceAll
    (hMark : IsMark mark)
    (hPart : IsApartFrom part ms)
    (hMem : mark ∈ ms)
    (t : Text) : ¬ mark <:+: Text.replaceAll mark part t := by
  have hNil : mark ≠ [] := by
    rcases hMark with ⟨name, rfl⟩
    exact List.cons_ne_nil _ _
  intro h
  exact (infix_of_infix_replaceAll hNil hMark hPart hMem h).2 rfl

------------------------------------------------------------
-- Whole URLs
------------------------------------------------------------

/- A line that is filled in leaves no mark for a line. -/
theorem not_lineMark_infix_fillLine
    {format : Text}
    {line : Option Nat}
    (hLine :
      line = none → ¬ lineMark <:+: dropLineFragment format) :
    ¬ lineMark <:+: fillLine format line := by
  cases line with
  | none => exact hLine rfl
  | some n =>
      have hMem : lineMark ∈ marks := by decide
      exact not_infix_replaceAll (isMark_of_mem_marks hMem)
        (isApartFrom_ofNat n) hMem format

/-
  No mark is left in a URL for what is filled in on every
  format: a text may not become a part of the marks that are
  not filled in behind it. Without a line, the mark of a line
  is gone if it is gone from the format with its fragment.
-/
theorem not_mark_infix_buildOn
    {template : UrlTemplate}
    {branch path : Text}
    (hRepository :
      IsApartFrom template.repository [repositoryMark, lineMark])
    (hBranch :
      IsApartFrom branch [repositoryMark, branchMark, lineMark])
    (hPath : IsApartFrom (path.dropWhile (· == '/')) marks)
    (line : Option Nat) :
    (∀ mark ∈ [repositoryMark, branchMark, pathMark],
      ¬ mark <:+: template.buildOn branch path line) ∧
    ((line = none →
        ¬ lineMark <:+: dropLineFragment template.format) →
      ¬ lineMark <:+: template.buildOn branch path line) := by
  -- What is left was there before the path and the branch
  -- were filled in, and it is the mark of neither.
  have hBeforePath :
      ∀ mark ∈ marks,
        mark <:+: template.buildOn branch path line →
        mark <:+: Text.replaceAll branchMark branch
            (Text.replaceAll repositoryMark template.repository
              (fillLine template.format line)) ∧
          mark ≠ pathMark :=
    fun mark hMem h =>
      infix_of_infix_replaceAll (by decide)
        (isMark_of_mem_marks hMem) hPath hMem h
  have hBeforeBranch :
      ∀ mark ∈ [repositoryMark, branchMark, lineMark],
        mark <:+: template.buildOn branch path line →
        mark <:+: Text.replaceAll repositoryMark
            template.repository
            (fillLine template.format line) ∧
          mark ≠ branchMark := by
    intro mark hMem h
    have hSubset :
        [repositoryMark, branchMark, lineMark] ⊆ marks := by
      decide
    have hMarks := hSubset hMem
    exact infix_of_infix_replaceAll (by decide)
      (isMark_of_mem_marks hMarks) hBranch hMem
      (hBeforePath mark hMarks h).1
  have hRepositoryMark : IsMark repositoryMark :=
    isMark_of_mem_marks (by decide)
  have hLineMark : IsMark lineMark :=
    isMark_of_mem_marks (by decide)
  constructor
  · intro mark hMem h
    simp only [List.mem_cons, List.not_mem_nil, or_false] at hMem
    rcases hMem with rfl | rfl | rfl
    · have hBefore := hBeforeBranch repositoryMark (by decide) h
      exact not_infix_replaceAll hRepositoryMark hRepository
        (by decide) _ hBefore.1
    · exact (hBeforeBranch branchMark (by decide) h).2 rfl
    · exact (hBeforePath pathMark (by decide) h).2 rfl
  · intro hLine h
    have hBefore := hBeforeBranch lineMark (by decide) h
    have hFilled :=
      infix_of_infix_replaceAll (by decide) hLineMark hRepository
        (by decide) hBefore.1
    exact not_lineMark_infix_fillLine hLine hFilled.1

/-
  A line fills in both places of a format, and without one
  the fragment is dropped that the only place is in.
-/
theorem not_mark_infix_buildOn_of_each_line :
    let template (fragment : Text) : UrlTemplate :=
      .ofAddress "https://github.com/org/shop/".toList
        "main".toList
        ("{repo_url}/blob/{branch}/{file_path}".toList ++ fragment)
    let range : UrlTemplate := template "#L{line}-L{line}".toList
    let single : UrlTemplate := template "#L{line}".toList
    let path : Text := "/src/A.cs".toList
    IsApartFrom range.repository [repositoryMark, lineMark] ∧
      IsApartFrom "dev".toList
        [repositoryMark, branchMark, lineMark] ∧
      IsApartFrom (path.dropWhile (· == '/')) marks ∧
      (∀ mark ∈ marks,
        ¬ mark <:+: range.buildOn "dev".toList path (some 12)) ∧
      ∀ mark ∈ marks,
        ¬ mark <:+: single.buildOn "dev".toList path none := by
  intro template range single path
  have hRepository :
      IsApartFrom range.repository [repositoryMark, lineMark] := by
    decide +kernel
  have hBranch :
      IsApartFrom "dev".toList
        [repositoryMark, branchMark, lineMark] := by
    decide +kernel
  have hPath : IsApartFrom (path.dropWhile (· == '/')) marks := by
    decide +kernel
  have hDropped :
      ¬ lineMark <:+: dropLineFragment single.format := by
    decide +kernel
  have hRange :=
    @not_mark_infix_buildOn range _ _ hRepository hBranch hPath
      (some 12)
  have hSingle :=
    @not_mark_infix_buildOn single _ _ hRepository hBranch hPath
      none
  have hMarks :
      ∀ url : Text,
        (∀ mark ∈ [repositoryMark, branchMark, pathMark],
          ¬ mark <:+: url) →
        ¬ lineMark <:+: url → ∀ mark ∈ marks, ¬ mark <:+: url := by
    intro url hFirst hLine mark hMem
    simp only [marks, List.mem_cons, List.not_mem_nil, or_false]
      at hMem hFirst
    rcases hMem with rfl | rfl | rfl | rfl
    · exact hFirst _ (Or.inl rfl)
    · exact hFirst _ (Or.inr (Or.inl rfl))
    · exact hFirst _ (Or.inr (Or.inr rfl))
    · exact hLine
  exact ⟨hRepository, hBranch, hPath,
    hMarks _ hRange.1 (hRange.2 (by simp)),
    hMarks _ hSingle.1 (hSingle.2 fun _ => hDropped)⟩

/-
  A branch that is a part of a mark is filled in between the
  pieces of that mark. Without a line, only one place for it
  is dropped from a format.
-/
theorem mark_infix_buildOn_formed :
    let template (format : Text) : UrlTemplate :=
      .ofAddress "https://github.com/org/shop".toList
        "main".toList format
    let nested : Text :=
      "{repo_url}/".toList ++ "\x7bli{branch}e\x7d".toList ++
        "/{file_path}".toList
    let range : Text :=
      "{repo_url}/{branch}/{file_path}#L{line}-L{line}".toList
    let path : Text := "src/A.cs".toList
    (template nested).buildOn ['n'] path (some 5) =
        "https://github.com/org/shop/{line}/src/A.cs".toList ∧
      lineMark <:+: (template nested).buildOn ['n'] path (some 5) ∧
      (template range).buildOn ['n'] path none =
        "https://github.com/org/shop/n/src/A.cs-L{line}".toList ∧
      lineMark <:+: (template range).buildOn ['n'] path none := by
  decide +kernel

end UrlTemplate

end SourceDocs
