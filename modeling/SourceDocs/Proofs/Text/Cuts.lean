import Mathlib.Data.List.Basic
import Mathlib.Tactic.Push
import SourceDocs.Text.Occurrence

/-
  What it means to cut a text at the occurrences of a
  pattern.

  A reader that does not look back cuts a text in one way
  only: nothing is found in a gap, the reader finds what an
  occurrence covers, and the cut goes on behind it.

  Key definitions include:
    * `SourceDocs.Occurrence.textBefore`
    * `SourceDocs.Reader.Steady`
    * `SourceDocs.Reader.Skips`
    * `SourceDocs.Text.CutsTo`

  Main results:
    * `SourceDocs.Text.cutsTo_cut`
    * `SourceDocs.Text.CutsTo.cut_eq`
-/

------------------------------------------------------------
-- Where An Occurrence Stands
------------------------------------------------------------

namespace SourceDocs

variable {α : Type}

/- The text that stands before an occurrence. -/
def Occurrence.textBefore
    (o : Occurrence α)
    (t : Text) : Text :=
  t.take (t.length - (o.covered ++ o.after).length)

@[simp] theorem Occurrence.textBefore_append
    (p gap x u : Text)
    (v : α) :
    Occurrence.textBefore ⟨gap, v, x, u⟩ (p ++ (x ++ u)) = p := by
  simp [Occurrence.textBefore]

------------------------------------------------------------
-- Steady Readers
------------------------------------------------------------

namespace Reader

/-
  A reader is steady if it does not look back and if what
  it finds stands at the front of the text.
-/
structure Steady (read : Reader α) : Prop where
  forgetful : ∀ before t, read before t = read none t
  covers : ∀ {t v x}, read none t = some (v, x) → x <+: t

/- A reader skips a place where it finds no occurrence. -/
def Skips (read : Reader α) (t : Text) : Prop :=
  ∀ v x, read none t = some (v, x) → x = []

end Reader

namespace Text

/- Where the end of two texts in a row starts. -/
theorem suffix_append_cases
    {s a b : Text}
    (h : s <:+ a ++ b) :
    s <:+ b ∨ ∃ s', s = s' ++ b ∧ s' <:+ a := by
  rcases List.suffix_or_suffix_of_suffix h
    (List.suffix_append a b) with hs | ⟨s', rfl⟩
  · exact Or.inl hs
  · rcases h with ⟨p, hp⟩
    rw [← List.append_assoc, List.append_cancel_right_eq] at hp
    exact Or.inr ⟨s', rfl, p, hp⟩

/- Where the front of two lists in a row ends. -/
theorem prefix_append_cases
    {s a b : List α}
    (h : s <+: a ++ b) :
    s <+: a ∨ ∃ s', a ++ s' = s ∧ s' <+: b := by
  rcases List.prefix_or_prefix_of_prefix h
    (List.prefix_append a b) with hs | ⟨s', rfl⟩
  · exact Or.inl hs
  · exact Or.inr ⟨s', rfl, (List.prefix_append_right_inj a).mp h⟩

end Text

------------------------------------------------------------
-- The Cut As A Relation
------------------------------------------------------------

namespace Text

/-
  The occurrences that a text is cut at, and the text behind
  the last of them.
-/
inductive CutsTo (read : Reader α) :
    Text → List (Occurrence α) → Text → Prop
| rest {t : Text}
    (hSkips : ∀ s, s <:+ t → s ≠ [] → read.Skips s) :
    CutsTo read t [] t
| next {gap x u r : Text} {v : α} {os : List (Occurrence α)}
    (hGap :
      ∀ s, s <:+ gap → s ≠ [] → read.Skips (s ++ (x ++ u)))
    (hFound : read none (x ++ u) = some (v, x))
    (hCovers : x ≠ [])
    (hRest : CutsTo read u os r) :
    CutsTo read (gap ++ (x ++ u)) (⟨gap, v, x, u⟩ :: os) r

/- Characters that belong to an occurrence are passed over. -/
theorem cutFrom_skip
    (read : Reader α)
    (before : Option Char)
    (skip : Nat)
    (gap t : Text) :
    ∃ b, cutFrom read before skip gap t =
      cutFrom read b 0 gap (t.drop skip) := by
  induction t generalizing before skip with
  | nil => exact ⟨before, by simp [cutFrom]⟩
  | cons c cs ih =>
      cases skip with
      | zero => exact ⟨before, rfl⟩
      | succ skip =>
          rcases ih (some c) skip with ⟨b, hb⟩
          exact ⟨b, by rw [cutFrom, hb, List.drop_succ_cons]⟩

/- A place that is skipped goes into the gap. -/
theorem cutFrom_cons_of_skips
    {read : Reader α}
    (hSteady : read.Steady)
    (before : Option Char)
    (gap : Text)
    {c : Char}
    {cs : Text}
    (hSkips : read.Skips (c :: cs)) :
    cutFrom read before 0 gap (c :: cs) =
      cutFrom read (some c) 0 (c :: gap) cs := by
  rw [cutFrom, hSteady.forgetful]
  split
  · next v d ds hRead => exact absurd (hSkips v _ hRead) (by simp)
  · rfl

/- The cut starts anew behind an occurrence. -/
theorem cutFrom_of_found
    {read : Reader α}
    (hSteady : read.Steady)
    (before : Option Char)
    (gap : Text)
    {v : α}
    {x u : Text}
    (hFound : read none (x ++ u) = some (v, x))
    (hCovers : x ≠ []) :
    ∃ b, cutFrom read before 0 gap (x ++ u) =
      Cut.cons ⟨gap.reverse, v, x, u⟩
        (cutFrom read b 0 [] u) := by
  cases x with
  | nil => exact absurd rfl hCovers
  | cons d ds =>
      rcases cutFrom_skip read (some d) ds.length [] (ds ++ u)
        with ⟨b, hb⟩
      refine ⟨b, ?_⟩
      rw [List.drop_left] at hb
      rw [List.cons_append] at hFound ⊢
      rw [cutFrom, hSteady.forgetful, hFound]
      simp only [hb, List.drop_left]

/- Either a place is skipped or an occurrence starts there. -/
theorem skips_or_found
    {read : Reader α}
    (hSteady : read.Steady)
    (t : Text) :
    read.Skips t ∨
      ∃ v x u, t = x ++ u ∧ x ≠ [] ∧
        read none (x ++ u) = some (v, x) := by
  by_cases hSkips : read.Skips t
  · exact Or.inl hSkips
  · right
    unfold Reader.Skips at hSkips
    push Not at hSkips
    rcases hSkips with ⟨v, x, hRead, hx⟩
    rcases hSteady.covers hRead with ⟨u, rfl⟩
    exact ⟨v, x, u, rfl, hx, hRead⟩

theorem skips_of_nil_gap
    (read : Reader α)
    (t : Text) :
    ∀ s : Text, s <:+ [] → s ≠ [] → read.Skips (s ++ t) :=
  fun _ hs hne => absurd (List.suffix_nil.mp hs) hne

/- A character where nothing starts joins the gap before it. -/
theorem skips_of_longer_gap
    {read : Reader α}
    {gap cs : Text}
    {c : Char}
    (hSkips : read.Skips (c :: cs))
    (hGap :
      ∀ s, s <:+ gap → s ≠ [] → read.Skips (s ++ c :: cs)) :
    ∀ s, s <:+ gap ++ [c] → s ≠ [] → read.Skips (s ++ cs) := by
  intro s hs hne
  rcases List.suffix_concat_iff.mp hs with rfl | ⟨s, rfl, hIn⟩
  · exact absurd rfl hne
  · rw [List.append_assoc, List.singleton_append]
    by_cases hNil : s = []
    · rwa [hNil, List.nil_append]
    · exact hGap s hIn hNil

/- At the end of the text the gap is what is left. -/
theorem cutsTo_cutFrom_nil
    {read : Reader α}
    (before : Option Char)
    {gap : Text}
    (hGap :
      ∀ s, s <:+ gap.reverse → s ≠ [] → read.Skips (s ++ [])) :
    CutsTo read (gap.reverse ++ [])
      (cutFrom read before 0 gap []).occurrences
      (cutFrom read before 0 gap []).rest := by
  rw [cutFrom, List.append_nil]
  exact .rest fun s hs hne => by
    simpa using hGap s hs hne

/- The cut that was begun with a gap in front of the text. -/
theorem cutsTo_cutFrom
    {read : Reader α}
    (hSteady : read.Steady)
    (n : Nat)
    (before : Option Char)
    (gap t : Text)
    (hLength : t.length ≤ n)
    (hGap :
      ∀ s, s <:+ gap.reverse → s ≠ [] → read.Skips (s ++ t)) :
    CutsTo read (gap.reverse ++ t)
      (cutFrom read before 0 gap t).occurrences
      (cutFrom read before 0 gap t).rest := by
  induction n generalizing before gap t with
  | zero =>
      have hNil : t = [] := List.length_eq_zero_iff.mp (by omega)
      subst hNil
      exact cutsTo_cutFrom_nil before hGap
  | succ n ih =>
      cases t with
      | nil => exact cutsTo_cutFrom_nil before hGap
      | cons c cs =>
          rcases skips_or_found hSteady (c :: cs) with
            hSkips | ⟨v, x, u, hEq, hx, hRead⟩
          · rw [cutFrom_cons_of_skips hSteady before gap hSkips]
            have hLonger :
                ∀ s, s <:+ (c :: gap).reverse → s ≠ [] →
                  read.Skips (s ++ cs) := by
              rw [List.reverse_cons]
              exact skips_of_longer_gap hSkips hGap
            have hNext :=
              ih (some c) (c :: gap) cs (by simpa using hLength)
                hLonger
            simpa using hNext
          · rw [hEq] at hGap ⊢
            rcases cutFrom_of_found hSteady before gap hRead hx
              with ⟨b, hb⟩
            rw [hb]
            refine .next hGap hRead hx ?_
            · have hShort : u.length ≤ n := by
                have hCount := congrArg List.length hEq
                have hPos := List.length_pos_iff.mpr hx
                simp only [List.length_cons, List.length_append]
                  at hCount hLength
                omega
              simpa [Cut.cons] using
                ih b [] u hShort (skips_of_nil_gap read u)

/- Cutting a text finds its cut. -/
theorem cutsTo_cut
    {read : Reader α}
    (hSteady : read.Steady)
    (t : Text) :
    CutsTo read t (t.cut read).occurrences (t.cut read).rest := by
  have h :=
    cutsTo_cutFrom hSteady t.length none [] t (Nat.le_refl _)
      (skips_of_nil_gap read t)
  simpa [cut] using h

------------------------------------------------------------
-- One Cut Only
------------------------------------------------------------

namespace CutsTo

variable {read : Reader α}

/- Two occurrences of which each comes first are the same. -/
theorem gap_length_le
    {gap gap' x x' u u' : Text}
    {v : α}
    (hEq : gap ++ (x ++ u) = gap' ++ (x' ++ u'))
    (hGap' :
      ∀ s, s <:+ gap' → s ≠ [] → read.Skips (s ++ (x' ++ u')))
    (hFound : read none (x ++ u) = some (v, x))
    (hCovers : x ≠ []) :
    gap'.length ≤ gap.length := by
  by_contra hShort
  have hFront : gap <+: gap' :=
    List.prefix_of_prefix_length_le
      (List.prefix_append gap (x ++ u))
      (hEq ▸ List.prefix_append gap' (x' ++ u')) (by omega)
  rcases hFront with ⟨s, rfl⟩
  rw [List.append_assoc, List.append_cancel_left_eq] at hEq
  have hne : s ≠ [] := by
    rintro rfl
    simp at hShort
  have hSkips := hGap' s (List.suffix_append gap s) hne
  rw [← hEq] at hSkips
  exact hCovers (hSkips v x hFound)

/- Equal texts are cut in one way only. -/
theorem unique
    {t t' r r' : Text}
    {os os' : List (Occurrence α)}
    (h : CutsTo read t os r)
    (h' : CutsTo read t' os' r')
    (hEq : t = t') :
    os = os' ∧ r = r' := by
  induction h generalizing t' os' r' with
  | rest hSkips =>
      cases h' with
      | rest => exact ⟨rfl, hEq⟩
      | next _ hFound hCovers _ =>
          subst hEq
          refine absurd (hSkips _ (List.suffix_append _ _) ?_ _ _
            hFound) hCovers
          simp [hCovers]
  | @next gap x u r v os hGap hFound hCovers hRest ih =>
      cases h' with
      | rest hSkips =>
          subst hEq
          refine absurd (hSkips _ (List.suffix_append _ _) ?_ _ _
            hFound) hCovers
          simp [hCovers]
      | @next gap' x' u' _ v' os' hGap' hFound' hCovers' hRest' =>
          have hLength : gap.length = gap'.length :=
            Nat.le_antisymm
              (gap_length_le hEq.symm hGap hFound' hCovers')
              (gap_length_le hEq hGap' hFound hCovers)
          rcases List.append_inj hEq hLength with ⟨rfl, hRead⟩
          rw [hRead, hFound'] at hFound
          rcases Prod.mk.inj (Option.some.inj hFound) with
            ⟨rfl, rfl⟩
          rcases List.append_cancel_left hRead with rfl
          rcases ih hRest' rfl with ⟨rfl, rfl⟩
          exact ⟨rfl, rfl⟩

/- Whatever a text is cut to is its cut. -/
theorem cut_eq
    (hSteady : read.Steady)
    {t r : Text}
    {os : List (Occurrence α)}
    (h : CutsTo read t os r) :
    t.cut read = ⟨os, r⟩ := by
  rcases unique (cutsTo_cut hSteady t) h rfl with
    ⟨hOccurrences, hRest⟩
  rw [← hOccurrences, ← hRest]

theorem found
    {t r : Text}
    {os : List (Occurrence α)}
    (h : CutsTo read t os r)
    {o : Occurrence α}
    (ho : o ∈ os) :
    read none (o.covered ++ o.after) = some (o.value, o.covered) := by
  induction h with
  | rest => simp at ho
  | next _ hFound _ _ ih =>
      rcases List.mem_cons.mp ho with rfl | ho
      · exact hFound
      · exact ih ho

/- It stands in the text. -/
theorem suffix
    {t r : Text}
    {os : List (Occurrence α)}
    (h : CutsTo read t os r)
    {o : Occurrence α}
    (ho : o ∈ os) : o.covered ++ o.after <:+ t := by
  induction h with
  | rest => simp at ho
  | @next gap x u r v os _ _ _ _ ih =>
      rcases List.mem_cons.mp ho with rfl | ho
      · exact List.suffix_append gap (x ++ u)
      · rw [← List.append_assoc]
        exact (ih ho).trans (List.suffix_append (gap ++ x) u)

/- The gaps and the occurrences make up the text. -/
theorem text_eq
    {t r : Text}
    {os : List (Occurrence α)}
    (h : CutsTo read t os r) :
    t = os.flatMap (fun o => o.gap ++ o.covered) ++ r := by
  induction h with
  | rest => simp
  | next _ _ _ _ ih =>
      rw [List.flatMap_cons, List.append_assoc,
        List.append_assoc, ← ih]

end CutsTo

/- What is found first in a text was read there. -/
theorem read_of_findFirst?
    {read : Reader α}
    (hSteady : read.Steady)
    {t : Text}
    {o : Occurrence α}
    (h : t.findFirst? read = some o) :
    t = o.gap ++ (o.covered ++ o.after) ∧
      read none (o.covered ++ o.after) =
        some (o.value, o.covered) := by
  have hCut := cutsTo_cut hSteady t
  rw [findFirst?] at h
  generalize (t.cut read).occurrences = os at hCut h
  generalize (t.cut read).rest = r at hCut
  cases hCut with
  | rest => cases h
  | next _ hFound _ _ =>
      cases h
      exact ⟨rfl, hFound⟩

end Text

end SourceDocs
