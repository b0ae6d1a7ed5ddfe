import SourceDocs.Proofs.Text.MarkCuts

/-
  Replacing what a reader finds by what it is worth.

  A front of a text in which nothing starts is left as it
  is, and a text goes on behind an occurrence as it would
  alone.

  Key definitions include:
    * `SourceDocs.Text.replaced`

  Main results:
    * `SourceDocs.Text.replaced_of_found`
    * `SourceDocs.Text.replaced_append_of_skips`
    * `SourceDocs.Text.replaceAll_append`
    * `SourceDocs.Text.replaceAll_mark_append`
-/

------------------------------------------------------------
-- Replacing By Value
------------------------------------------------------------

namespace SourceDocs

namespace Text

variable {α : Type}
variable {read : Reader α}

/- A text with something for each value that is read. -/
def replaced
    (read : Reader α)
    (write : α → Text)
    (t : Text) : Text :=
  (t.cut read).replace fun o => write o.value

/- A text in which nothing is found stays. -/
theorem replaced_of_skips
    (hSteady : read.Steady)
    (write : α → Text)
    {t : Text}
    (hSkips : ∀ s, s <:+ t → s ≠ [] → read.Skips s) :
    replaced read write t = t := by
  rw [replaced, (CutsTo.rest hSkips).cut_eq hSteady]
  rfl

/- The first find is replaced, and the rest by itself. -/
theorem replaced_of_found
    (hSteady : read.Steady)
    (write : α → Text)
    {gap x u : Text}
    {v : α}
    (hGap :
      ∀ s, s <:+ gap → s ≠ [] → read.Skips (s ++ (x ++ u)))
    (hFound : read none (x ++ u) = some (v, x))
    (hCovers : x ≠ []) :
    replaced read write (gap ++ (x ++ u)) =
      gap ++ (write v ++ replaced read write u) := by
  have hCut :=
    CutsTo.next hGap hFound hCovers (cutsTo_cut hSteady u)
  rw [replaced, hCut.cut_eq hSteady]
  simp [Cut.replace, replaced]

/- Suffixes of a longer gap are skipped if both parts are. -/
theorem skips_of_gap_append
    {a gap t : Text}
    (hGap : ∀ s, s <:+ gap → s ≠ [] → read.Skips (s ++ t))
    (hFront :
      ∀ s, s <:+ a → s ≠ [] → read.Skips (s ++ (gap ++ t))) :
    ∀ s, s <:+ a ++ gap → s ≠ [] → read.Skips (s ++ t) := by
  intro s hs hne
  rcases suffix_append_cases hs with hs | ⟨s', rfl, hs'⟩
  · exact hGap s hs hne
  · rw [List.append_assoc]
    by_cases hNil : s' = []
    · subst hNil
      exact hGap _ List.suffix_rfl hne
    · exact hFront s' hs' hNil

/- A front in which nothing starts stays. -/
theorem replaced_append_of_skips
    (hSteady : read.Steady)
    (write : α → Text)
    {a t : Text}
    (hSkips : ∀ s, s <:+ a → s ≠ [] → read.Skips (s ++ t)) :
    replaced read write (a ++ t) =
      a ++ replaced read write t := by
  have hCut := cutsTo_cut hSteady t
  generalize (t.cut read).occurrences = os at hCut
  generalize (t.cut read).rest = r at hCut
  cases hCut with
  | rest hNone =>
      rw [replaced_of_skips hSteady write hNone]
      have hWhole :=
        skips_of_gap_append (t := [])
          (by simpa using hNone) (by simpa using hSkips)
      exact replaced_of_skips hSteady write (by simpa using hWhole)
  | @next gap x u _ v os hGap hFound hCovers hNext =>
      rw [replaced_of_found hSteady write hGap hFound hCovers,
        ← List.append_assoc,
        replaced_of_found hSteady write
          (skips_of_gap_append hGap hSkips) hFound hCovers,
        List.append_assoc]

------------------------------------------------------------
-- Replacing A Fixed Text
------------------------------------------------------------

end Text

namespace Reader

theorem literal_eq_some_iff
    {mark t x : Text}
    {before : Option Char}
    {v : Unit} :
    literal mark before t = some (v, x) ↔
      mark <+: t ∧ x = mark := by
  simp only [literal, Option.map_eq_some_iff,
    Text.after?_eq_some_iff, Prod.mk.injEq, true_and]
  constructor
  · rintro ⟨u, rfl, rfl⟩
    exact ⟨List.prefix_append mark u, rfl⟩
  · rintro ⟨⟨u, rfl⟩, rfl⟩
    exact ⟨u, rfl, rfl⟩

theorem literal_steady
    (mark : Text) : (literal mark).Steady where
  forgetful _ _ := rfl
  covers hFound := by
    rcases literal_eq_some_iff.mp hFound with ⟨hPrefix, rfl⟩
    exact hPrefix

/- A fixed text is skipped where it does not stand. -/
theorem literal_skips
    {mark t : Text}
    (hMark : ¬ mark <+: t) : (literal mark).Skips t :=
  fun _ _ hFound =>
    absurd (literal_eq_some_iff.mp hFound).1 hMark

theorem literal_skips_iff
    {mark t : Text}
    (hNil : mark ≠ []) :
    (literal mark).Skips t ↔ ¬ mark <+: t := by
  refine ⟨fun hSkips hPrefix => ?_, literal_skips⟩
  exact hNil
    (hSkips () mark (literal_eq_some_iff.mpr ⟨hPrefix, rfl⟩))

end Reader

namespace Text

/- A front in which the old text does not start stays. -/
theorem replaceAll_append
    {old new a t : Text}
    (hFront : ∀ s, s <:+ a → s ≠ [] → ¬ old <+: s ++ t) :
    replaceAll old new (a ++ t) = a ++ replaceAll old new t :=
  replaced_append_of_skips (Reader.literal_steady old)
    (fun _ => new) fun s hs hne => Reader.literal_skips (hFront s hs hne)

/- So does a text that does not hold it. -/
theorem replaceAll_of_not_infix
    {old t : Text}
    (hNot : ¬ old <:+: t)
    (new : Text) : replaceAll old new t = t :=
  replaced_of_skips (Reader.literal_steady old) (fun _ => new)
    fun _ hs _ =>
      Reader.literal_skips fun hPrefix =>
        hNot (hPrefix.isInfix.trans hs.isInfix)

/- So does one without the first character of the old text. -/
theorem replaceAll_append_of_not_mem
    {c : Char}
    {old new a t : Text}
    (hOld : old.head? = some c)
    (ha : c ∉ a) :
    replaceAll old new (a ++ t) = a ++ replaceAll old new t := by
  rcases List.head?_eq_some_iff.mp hOld with ⟨old, rfl⟩
  exact replaceAll_append fun s hs hne =>
    not_prefix_append_of_not_mem ha hs hne t

/- So does one that does not hold it, up to another mark. -/
theorem replaceAll_append_of_not_infix
    {c : Char}
    {old new a t : Text}
    (hOld : c ∉ old)
    (ha : ¬ old <:+: a) :
    replaceAll old new (a ++ c :: t) =
      a ++ replaceAll old new (c :: t) :=
  replaceAll_append fun _ hs _ =>
    not_prefix_append_cons hOld ha hs t

/- A text does not reach into a back without its last sign. -/
theorem prefix_of_prefix_append
    {c : Char}
    {old s u : Text}
    (hOld : old.getLast? = some c)
    (hu : c ∉ u)
    (hPrefix : old <+: s ++ u) : old <+: s := by
  rcases prefix_append_cases hPrefix with hIn | ⟨v, rfl, hv⟩
  · exact hIn
  · cases v with
    | nil => exact (List.append_nil s).symm ▸ List.prefix_rfl
    | cons d v =>
        rw [List.getLast?_append_cons] at hOld
        exact absurd
          (hv.subset (List.mem_of_mem_getLast? hOld)) hu

/- So where it is not found, it is not with such a back. -/
theorem literal_skips_append
    {c : Char}
    {old s u : Text}
    (hOld : old.getLast? = some c)
    (hu : c ∉ u)
    (hSkips : (Reader.literal old).Skips s) :
    (Reader.literal old).Skips (s ++ u) := by
  have hNil : old ≠ [] := by
    rintro rfl
    cases hOld
  rw [Reader.literal_skips_iff hNil] at hSkips ⊢
  exact fun hPrefix =>
    hSkips (prefix_of_prefix_append hOld hu hPrefix)

/- A back without the last character of the old text stays. -/
theorem replaceAll_append_back
    {c : Char}
    {old new u : Text}
    (hOld : old.getLast? = some c)
    (hu : c ∉ u)
    (t : Text) :
    replaceAll old new (t ++ u) = replaceAll old new t ++ u := by
  have hSteady := Reader.literal_steady old
  have hMem : c ∈ old := List.mem_of_mem_getLast? hOld
  change
    replaced (Reader.literal old) (fun _ => new) (t ++ u) =
      replaced (Reader.literal old) (fun _ => new) t ++ u
  have hCut := cutsTo_cut hSteady t
  generalize (t.cut (Reader.literal old)).occurrences = os at hCut
  generalize (t.cut (Reader.literal old)).rest = r at hCut
  induction hCut with
  | @rest t hSkips =>
      rw [replaced_of_skips hSteady _ hSkips]
      refine replaced_of_skips hSteady _ fun s hs hne => ?_
      rcases suffix_append_cases hs with hIn | ⟨s, rfl, hFrom⟩
      · refine Reader.literal_skips fun hPrefix => hu ?_
        exact hIn.subset (hPrefix.subset hMem)
      · by_cases hEmpty : s = []
        · subst hEmpty
          exact Reader.literal_skips fun hPrefix =>
            hu (hPrefix.subset hMem)
        · exact literal_skips_append hOld hu
            (hSkips s hFrom hEmpty)
  | @next gap x v _ _ _ hGap hFound hCovers _ ih =>
      rcases Reader.literal_eq_some_iff.mp hFound with ⟨-, rfl⟩
      have hStill :
          Reader.literal x none (x ++ (v ++ u)) =
            some ((), x) :=
        Reader.literal_eq_some_iff.mpr
          ⟨List.prefix_append x _, rfl⟩
      have hGapStays :
          ∀ s, s <:+ gap → s ≠ [] →
            (Reader.literal x).Skips (s ++ (x ++ (v ++ u))) := by
        intro s hs hne
        have hLonger :=
          literal_skips_append hOld hu (hGap s hs hne)
        rwa [List.append_assoc, List.append_assoc] at hLonger
      rw [replaced_of_found hSteady _ hGap hFound hCovers,
        List.append_assoc, List.append_assoc, List.append_assoc,
        List.append_assoc, ← ih]
      exact replaced_of_found hSteady _ hGapStays hStill hCovers

/- The old text in front is replaced. -/
theorem replaceAll_mark_append
    {old : Text}
    (hNil : old ≠ [])
    (new t : Text) :
    replaceAll old new (old ++ t) =
      new ++ replaceAll old new t := by
  have hFound :
      Reader.literal old none (old ++ t) = some ((), old) :=
    Reader.literal_eq_some_iff.mpr ⟨List.prefix_append old t, rfl⟩
  exact replaced_of_found (Reader.literal_steady old)
    (fun _ => new) (skips_of_nil_gap _ _) hFound hNil

end Text

end SourceDocs
