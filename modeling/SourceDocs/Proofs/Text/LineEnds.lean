import Mathlib.Algebra.GroupWithZero.Nat
import SourceDocs.Proofs.Text.Replacing
import SourceDocs.Proofs.Text.Sights

/-
  The line ends of a text in which occurrences are replaced.

  A text is put together again from its cut. So its line
  ends are those between the occurrences and those that the
  occurrences cover, and of a replacement only the second
  ones depend on what is written. For the same reason an
  occurrence is on the line that the text before it ends on.

  Key definitions include:
    * `SourceDocs.Reader.ReadsFront`

  Main results:
    * `SourceDocs.Text.textBefore_append_of_mem_cut`
    * `SourceDocs.Text.numbered_cut`
    * `SourceDocs.Text.replace_covered`
    * `SourceDocs.Text.lineEnds_replace`
    * `SourceDocs.Text.mem_replaceAll`
-/

------------------------------------------------------------
-- Putting Together
------------------------------------------------------------

namespace SourceDocs

variable {α : Type}
variable {read : Reader α}

/- Whether a reader covers what a text starts with. -/
def Reader.ReadsFront (read : Reader α) : Prop :=
  ∀ before t v x, read before t = some (v, x) → x <+: t

theorem Reader.Steady.readsFront
    (hSteady : read.Steady) : read.ReadsFront := by
  intro before t v x hRead
  rw [hSteady.forgetful] at hRead
  exact hSteady.covers hRead

namespace Cut

theorem replace_cons
    (o : Occurrence α)
    (cut : Cut α)
    (write : Occurrence α → Text) :
    (cons o cut).replace write =
      o.gap ++ write o ++ cut.replace write := by
  simp [replace, cons]

variable {cut : Cut α}
variable {f : Occurrence α → Text}

/- What is written in one way but not in another is new. -/
theorem mem_replace
    (g : Occurrence α → Text)
    {c : Char}
    (hc : c ∈ cut.replace f) :
    (∃ o ∈ cut.occurrences, c ∈ f o) ∨ c ∈ cut.replace g := by
  unfold replace at hc ⊢
  rcases List.mem_append.mp hc with hc | hc
  · rcases List.mem_flatMap.mp hc with ⟨o, ho, hc⟩
    rcases List.mem_append.mp hc with hc | hc
    · right
      apply List.mem_append_left
      exact List.mem_flatMap.mpr
        ⟨o, ho, List.mem_append_left _ hc⟩
    · exact Or.inl ⟨o, ho, hc⟩
  · exact Or.inr (List.mem_append_right _ hc)

end Cut

namespace Text

/- From any place on a text is put together again. -/
theorem replace_covered_cutFrom
    (hFront : read.ReadsFront)
    (before : Option Char)
    (skip : Nat)
    (gap t : Text) :
    (cutFrom read before skip gap t).replace (·.covered) =
      gap.reverse ++ t.drop skip := by
  induction t generalizing before skip gap with
  | nil => simp [cutFrom, Cut.replace]
  | cons c cs ih =>
      cases skip with
      | succ skip =>
          rw [cutFrom, ih, List.drop_succ_cons]
      | zero =>
          rw [cutFrom.eq_def]
          dsimp only
          split
          · next v d ds hRead =>
              rcases hFront _ _ _ _ hRead with ⟨u, hu⟩
              rcases List.cons.inj hu with ⟨rfl, rfl⟩
              rw [Cut.replace_cons, ih]
              simp
          · rw [ih]
            simp

/- A text is what its occurrences cover, and the gaps. -/
theorem replace_covered
    (hFront : read.ReadsFront)
    (t : Text) :
    (t.cut read).replace (·.covered) = t :=
  replace_covered_cutFrom hFront none 0 [] t

------------------------------------------------------------
-- Places And Lines
------------------------------------------------------------

/- Wherever a text is cut from, an occurrence stands in it. -/
theorem suffix_of_mem_cutFrom
    (hFront : read.ReadsFront)
    {before : Option Char}
    {skip : Nat}
    {gap t : Text}
    {o : Occurrence α}
    (ho : o ∈ (cutFrom read before skip gap t).occurrences) :
    o.covered ++ o.after <:+ t.drop skip := by
  induction t generalizing before skip gap with
  | nil => simp [cutFrom] at ho
  | cons c cs ih =>
      cases skip with
      | succ skip =>
          rw [cutFrom] at ho
          rw [List.drop_succ_cons]
          exact ih ho
      | zero =>
          rw [List.drop_zero]
          rw [cutFrom.eq_def] at ho
          dsimp only at ho
          split at ho
          · next v d ds hRead =>
              rcases hFront _ _ _ _ hRead with ⟨u, hu⟩
              rcases List.cons.inj hu with ⟨rfl, rfl⟩
              rcases List.mem_cons.mp ho with rfl | ho
              · simp
              · exact (ih ho).trans
                  ((List.drop_suffix _ _).trans
                    (List.suffix_cons d _))
          · exact (ih ho).trans (List.suffix_cons c cs)

/- The text before an occurrence ends where it starts. -/
theorem textBefore_append_of_mem_cut
    (hFront : read.ReadsFront)
    {t : Text}
    {o : Occurrence α}
    (ho : o ∈ (t.cut read).occurrences) :
    o.textBefore t ++ (o.covered ++ o.after) = t :=
  List.suffix_iff_eq_append.mp (suffix_of_mem_cutFrom hFront ho)

/-
  Behind a front that was passed over, the number of a line
  counts the line ends of all the text before an occurrence.
-/
theorem numberedFrom_cutFrom
    (hFront : read.ReadsFront)
    (line : Nat)
    (before : Option Char)
    (skip : Nat)
    (front gap t : Text) :
    Cut.numberedFrom (line + lineEnds front)
        (cutFrom read before skip gap t).occurrences =
      (cutFrom read before skip gap t).occurrences.map fun o =>
        (line +
            lineEnds
              (o.textBefore
                (front ++ (gap.reverse ++ t.drop skip))),
          o) := by
  induction t generalizing before skip front gap with
  | nil => rfl
  | cons c cs ih =>
      cases skip with
      | succ skip =>
          rw [cutFrom, List.drop_succ_cons]
          exact ih _ _ front gap
      | zero =>
          rw [List.drop_zero, cutFrom.eq_def]
          dsimp only
          split
          · next v d ds hRead =>
              rcases hFront _ _ _ _ hRead with ⟨u, hu⟩
              rw [List.cons_append, List.cons.injEq] at hu
              rcases hu with ⟨rfl, rfl⟩
              have hNext :=
                ih (some d) ds.length
                  (front ++ gap.reverse ++ d :: ds) []
              have hWhole :
                  front ++ gap.reverse ++ d :: ds ++
                      ([].reverse ++ (ds ++ u).drop ds.length) =
                    front ++ (gap.reverse ++ d :: (ds ++ u)) := by
                simp
              have hBefore :
                  Occurrence.textBefore
                      ⟨gap.reverse, v, d :: ds, u⟩
                      (front ++ (gap.reverse ++ d :: (ds ++ u))) =
                    front ++ gap.reverse := by
                rw [← List.append_assoc]
                exact Occurrence.textBefore_append _ _ (d :: ds) u v
              rw [hWhole, lineEnds_append, lineEnds_append,
                ← Nat.add_assoc, ← Nat.add_assoc] at hNext
              simp only [Cut.cons, Cut.numberedFrom, List.map_cons,
                List.drop_left]
              rw [hNext, hBefore, lineEnds_append, Nat.add_assoc]
          · rw [ih _ 0 front (c :: gap)]
            simp

/- An occurrence is on the line that the text before ends on. -/
theorem numbered_cut
    (hFront : read.ReadsFront)
    (t : Text)
    (line : Nat) :
    (t.cut read).numbered line =
      (t.cut read).occurrences.map fun o =>
        (line + lineEnds (o.textBefore t), o) :=
  numberedFrom_cutFrom hFront line none 0 [] [] t

------------------------------------------------------------
-- Counting
------------------------------------------------------------

/-
  Two ways of writing differ in line ends by what one of
  them loses in each occurrence.
-/
theorem lineEnds_replace
    {cut : Cut α}
    {f g : Occurrence α → Text}
    {lost : Occurrence α → Nat}
    (h :
      ∀ o ∈ cut.occurrences,
        lineEnds (f o) + lost o = lineEnds (g o)) :
    lineEnds (cut.replace f) +
        (cut.occurrences.map lost).sum =
      lineEnds (cut.replace g) := by
  rcases cut with ⟨os, rest⟩
  induction os with
  | nil => rfl
  | cons o os ih =>
      have hHere := h o List.mem_cons_self
      have hRest := ih fun o' ho' =>
        h o' (List.mem_cons_of_mem o ho')
      have hSplit :
          ∀ write : Occurrence α → Text,
            Cut.replace ⟨o :: os, rest⟩ write =
              o.gap ++ write o ++ Cut.replace ⟨os, rest⟩ write :=
        Cut.replace_cons o ⟨os, rest⟩
      simp only [hSplit, lineEnds_append, List.map_cons,
        List.sum_cons] at hRest ⊢
      omega

/- Nothing is lost if each occurrence keeps its line ends. -/
theorem lineEnds_replace_of_same
    (hFront : read.ReadsFront)
    {t : Text}
    {write : Occurrence α → Text}
    (h :
      ∀ o ∈ (t.cut read).occurrences,
        lineEnds (write o) = lineEnds o.covered) :
    lineEnds ((t.cut read).replace write) = lineEnds t := by
  have hSame :
      lineEnds ((t.cut read).replace write) +
          ((t.cut read).occurrences.map fun _ => 0).sum =
        lineEnds ((t.cut read).replace (·.covered)) :=
    lineEnds_replace h
  simpa [replace_covered hFront] using hSame

/- Replacing a mark brings in nothing but the new text. -/
theorem mem_replaceAll
    {old new t : Text}
    {c : Char}
    (hc : c ∈ replaceAll old new t) : c ∈ new ∨ c ∈ t := by
  have hFront := (Reader.literal_steady old).readsFront
  rcases Cut.mem_replace (·.covered) hc with ⟨_, -, hNew⟩ | hOld
  · exact Or.inl hNew
  · rw [replace_covered hFront] at hOld
    exact Or.inr hOld

end Text

end SourceDocs
