import Mathlib.Data.List.TakeWhile
import SourceDocs.Proofs.Text.Words

/-
  Texts, line by line.

  A text is a line with the next lines behind it, or a line
  alone; so it can be gone through from line to line.

  Key definitions include:
    * `SourceDocs.Text.behind`
    * `SourceDocs.Text.IsWholeLines`

  Main results:
    * `SourceDocs.Text.line_induction`
    * `SourceDocs.Text.line_inj`
    * `SourceDocs.Text.splitOn_line`
    * `SourceDocs.Text.exists_quoted_line`
-/

------------------------------------------------------------
-- Lines And What Is Behind Them
------------------------------------------------------------

namespace SourceDocs

namespace Text

/- What stands behind a line: the next lines, if there are any. -/
def behind : Option Text → Text
| none => []
| some u => '\n' :: u

/- Every text is a line with others behind it, or alone. -/
theorem exists_line (t : Text) :
    ∃ l next, '\n' ∉ l ∧ t = l ++ behind next := by
  induction t with
  | nil => exact ⟨[], none, List.not_mem_nil, rfl⟩
  | cons c t ih =>
      by_cases hc : c = '\n'
      · subst hc
        exact ⟨[], some t, List.not_mem_nil, rfl⟩
      · rcases ih with ⟨l, next, hl, rfl⟩
        exact ⟨c :: l, next, by simp [hl, Ne.symm hc], rfl⟩

/- A text comes after what stands behind its lines. -/
theorem behind_induction
    {p : Text → Prop}
    (step :
      ∀ t,
        (∀ l next, t = l ++ behind next → ∀ u ∈ next, p u) →
        p t)
    (t : Text) : p t := by
  induction hLength : t.length using Nat.strong_induction_on
    generalizing t with
  | _ n ih =>
      subst hLength
      refine step t ?_
      rintro l next rfl u hu
      cases hu
      refine ih u.length ?_ u rfl
      simp only [behind, List.length_append, List.length_cons]
      omega

/- A text is gone through line by line. -/
theorem line_induction
    {p : Text → Prop}
    (line :
      ∀ l next, '\n' ∉ l → (∀ u ∈ next, p u) →
        p (l ++ behind next))
    (t : Text) : p t := by
  induction t using behind_induction with
  | step t ih =>
      rcases exists_line t with ⟨l, next, hl, rfl⟩
      exact line l next hl (ih l next rfl)

------------------------------------------------------------
-- The First Line
------------------------------------------------------------

/- The line is what stands before the first line end. -/
theorem takeWhile_line
    {l : Text}
    (hl : '\n' ∉ l)
    (next : Option Text) :
    (l ++ behind next).takeWhile (· != '\n') = l := by
  have hAll : ∀ c ∈ l, (c != '\n') = true := by
    intro c hc
    simpa using ne_of_mem_of_not_mem hc hl
  cases next with
  | none =>
      rw [behind, List.append_nil]
      exact List.takeWhile_eq_self_iff.mpr hAll
  | some u =>
      rw [behind, takeWhile_append_cons (by decide)]
      exact List.takeWhile_eq_self_iff.mpr hAll

theorem splitOn_line
    {l : Text}
    (hl : '\n' ∉ l)
    (next : Option Text) :
    (l ++ behind next).splitOn '\n' =
      l :: next.elim [] (·.splitOn '\n') := by
  cases next with
  | none =>
      rw [behind, List.append_nil, List.splitOn_eq_singleton hl]
      rfl
  | some u =>
      rw [behind, List.splitOn_append_cons_self,
        List.splitOn_eq_singleton hl]
      rfl

/- A text is parted at its first line end in one way. -/
theorem line_inj
    {l m : Text}
    {next rest : Option Text}
    (hl : '\n' ∉ l)
    (hm : '\n' ∉ m)
    (hEq : l ++ behind next = m ++ behind rest) :
    l = m ∧ next = rest := by
  have hLine : l = m := by
    rw [← takeWhile_line hl next, hEq, takeWhile_line hm]
  subst hLine
  refine ⟨rfl, ?_⟩
  have hBehind := List.append_cancel_left hEq
  cases next with
  | none => cases rest <;> cases hBehind; rfl
  | some u => cases rest <;> cases hBehind; rfl

/- A text without line ends in front is part of the line. -/
theorem exists_of_behind
    {l h w : Text}
    {r : Option Text}
    (hFree : '\n' ∉ h)
    (hEq : l ++ behind r = h ++ w) :
    ∃ l', l = h ++ l' ∧ w = l' ++ behind r := by
  rcases List.append_eq_append_iff.mp hEq with
    ⟨h', rfl, hBehind⟩ | ⟨l', rfl, hw⟩
  · cases h' with
    | nil => exact ⟨[], by simp, hBehind.symm⟩
    | cons c h' =>
        cases r with
        | none => cases hBehind
        | some u =>
            cases hBehind
            exact absurd (by simp) hFree
  · exact ⟨l', rfl, hw⟩

------------------------------------------------------------
-- Whole Lines
------------------------------------------------------------

/- Whether a text consists of lines that all have ended. -/
def IsWholeLines (t : Text) : Prop :=
  t = [] ∨ ∃ front, t = front ++ ['\n']

/- It starts with one of them, or there are none. -/
theorem IsWholeLines.cases
    {t : Text}
    (h : IsWholeLines t) :
    t = [] ∨
      ∃ l u, '\n' ∉ l ∧ t = l ++ '\n' :: u ∧ IsWholeLines u := by
  rcases h with rfl | ⟨front, rfl⟩
  · exact Or.inl rfl
  · right
    rcases exists_line front with ⟨l, next, hl, rfl⟩
    cases next with
    | none => exact ⟨l, [], hl, by simp [behind], Or.inl rfl⟩
    | some u =>
        exact ⟨l, u ++ ['\n'], hl, by simp [behind],
          Or.inr ⟨u, rfl⟩⟩

theorem IsWholeLines.cons
    {u : Text}
    (l : Text)
    (h : IsWholeLines u) : IsWholeLines (l ++ '\n' :: u) := by
  right
  rcases h with rfl | ⟨front, rfl⟩
  · exact ⟨l, rfl⟩
  · exact ⟨l ++ '\n' :: front, by simp⟩

------------------------------------------------------------
-- Quotation Marks
------------------------------------------------------------

/- The first quotation mark stands in some line. -/
theorem exists_quoted_line
    {t : Text}
    (h : '"' ∈ t) :
    ∃ address shown next,
      '"' ∉ address ∧ '\n' ∉ shown ∧
        t = address ++ '"' :: (shown ++ behind next) := by
  rcases List.eq_append_cons_of_mem h with
    ⟨address, u, rfl, hFree⟩
  rcases exists_line u with ⟨shown, next, hShown, rfl⟩
  exact ⟨address, shown, next, hFree, hShown, rfl⟩

end Text

end SourceDocs
