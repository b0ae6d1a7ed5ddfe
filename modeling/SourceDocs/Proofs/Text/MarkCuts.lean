import SourceDocs.Proofs.Text.Cuts
import SourceDocs.Proofs.Text.Stretches

/-
  Texts that are cut at the first place of a mark.

  A front in which the mark does not start is passed over.
  So a text is cut unless the mark is nowhere in it, and the
  mark starts nowhere before the cut.

  Main results:
    * `SourceDocs.Text.not_prefix_append_cons`
    * `SourceDocs.Text.cutAt?_append_of_not_prefix`
    * `SourceDocs.Text.cutAt?_eq_none_iff`
-/

------------------------------------------------------------
-- Fronts
------------------------------------------------------------

namespace SourceDocs

namespace Text

/- A mark starts nowhere in a front without its first sign. -/
theorem not_prefix_append_of_not_mem
    {c : Char}
    {mark a s : Text}
    (ha : c ∉ a)
    (hs : s <:+ a)
    (hne : s ≠ [])
    (t : Text) : ¬ c :: mark <+: s ++ t := by
  intro hPrefix
  rcases List.exists_cons_of_ne_nil hne with ⟨d, s, rfl⟩
  rw [List.cons_append, List.cons_prefix_cons] at hPrefix
  exact ha (hPrefix.1 ▸ hs.subset List.mem_cons_self)

/-
  A mark that does not stand in a front does not start in it
  either, up to a character that the mark is without.
-/
theorem not_prefix_append_cons
    {c : Char}
    {mark a s : Text}
    (hMark : c ∉ mark)
    (ha : ¬ mark <:+: a)
    (hs : s <:+ a)
    (t : Text) : ¬ mark <+: s ++ c :: t := by
  intro hPrefix
  rcases prefix_append_cases hPrefix with hIn | ⟨s', rfl, hs'⟩
  · exact ha (hIn.isInfix.trans hs.isInfix)
  · cases s' with
    | nil => exact ha (by simpa using hs.isInfix)
    | cons d s' =>
        rw [List.cons_prefix_cons] at hs'
        exact hMark (by simp [hs'.1])

theorem after?_eq_none_iff
    {mark t : Text} :
    after? mark t = none ↔ ¬ mark <+: t := by
  rw [Option.eq_none_iff_forall_ne_some]
  constructor
  · rintro h ⟨u, rfl⟩
    exact h u (after?_append mark u)
  · intro h u hEq
    exact h ⟨u, (eq_append_of_after? hEq).symm⟩

------------------------------------------------------------
-- First Places
------------------------------------------------------------

theorem cutAt?_mark_append
    (mark u : Text) :
    cutAt? mark (mark ++ u) = some ([], u) := by
  cases hText : mark ++ u with
  | nil =>
      rcases List.append_eq_nil_iff.mp hText with ⟨rfl, rfl⟩
      rfl
  | cons c t =>
      have hAfter : after? mark (c :: t) = some u :=
        after?_eq_some_iff.mpr hText.symm
      rw [cutAt?, hAfter]

/- A front in which the mark does not start is passed over. -/
theorem cutAt?_append_of_not_prefix
    {mark a t : Text}
    (hFront : ∀ s, s <:+ a → s ≠ [] → ¬ mark <+: s ++ t) :
    cutAt? mark (a ++ t) =
      (cutAt? mark t).map fun (before, rest) =>
        (a ++ before, rest) := by
  induction a with
  | nil => simp
  | cons c a ih =>
      have hNone : after? mark (c :: (a ++ t)) = none :=
        after?_eq_none_iff.mpr
          (hFront (c :: a) List.suffix_rfl (List.cons_ne_nil c a))
      have hRest := ih fun s hs =>
        hFront s (hs.trans (List.suffix_cons c a))
      rw [List.cons_append, cutAt?, hNone]
      dsimp only
      rw [hRest, Option.map_map]
      rfl

/- A text is cut unless the mark is nowhere in it. -/
theorem cutAt?_eq_none_iff
    {mark t : Text} :
    cutAt? mark t = none ↔ ¬ mark <:+: t := by
  constructor
  · rintro h ⟨a, b, rfl⟩
    induction a with
    | nil =>
        rw [List.nil_append, cutAt?_mark_append] at h
        cases h
    | cons c a ih =>
        rw [List.cons_append, List.cons_append, cutAt?] at h
        split at h
        · cases h
        · exact ih (Option.map_eq_none_iff.mp h)
  · intro h
    cases hCut : cutAt? mark t with
    | none => rfl
    | some parts =>
        refine absurd ⟨parts.1, parts.2, ?_⟩ h
        rw [List.append_assoc]
        exact (eq_append_of_cutAt? hCut).symm

theorem holds_eq_false_iff
    {mark t : Text} :
    holds t mark = false ↔ ¬ mark <:+: t := by
  rw [holds, Option.isSome_eq_false_iff, Option.isNone_iff_eq_none,
    cutAt?_eq_none_iff]

end Text

end SourceDocs
