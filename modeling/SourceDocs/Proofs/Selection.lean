import Mathlib.Data.List.Basic
import Mathlib.Data.List.Forall2
import SourceDocs.Declaration.Calls

/-
  Elements that are taken from a list.

  From a list the first element for each key is taken, or
  all elements that become something. Of two lists that
  correspond what is taken corresponds too. Where elements
  become one thing and more, the list shows whether all of
  them become just one.

  Main results:
    * `SourceDocs.mem_firstBy_iff`
    * `SourceDocs.mem_map_firstBy_iff`
    * `SourceDocs.forall₂_firstBy`
    * `SourceDocs.forall₂_filter_filterMap`
    * `SourceDocs.flatMap_cons_eq_map_iff`
-/

------------------------------------------------------------
-- First Of Each
------------------------------------------------------------

namespace SourceDocs

section First

variable {α κ : Type}
variable [DecidableEq κ]
variable {key : α → κ}

/- The keys of what comes first differ. -/
theorem nodup_map_firstBy
    (key : α → κ)
    (as : List α) : ((firstBy key as).map key).Nodup := by
  induction as with
  | nil => exact List.nodup_nil
  | cons a as ih =>
      rw [firstBy, List.map_cons, List.nodup_cons]
      constructor
      · intro hMem
        rcases List.mem_map.mp hMem with ⟨b, hb, hEq⟩
        have hNe := (List.mem_filter.mp hb).2
        simp [hEq] at hNe
      · exact ih.sublist (List.filter_sublist.map key)

theorem firstBy_sublist
    (key : α → κ)
    (as : List α) : (firstBy key as).Sublist as := by
  induction as with
  | nil => exact List.Sublist.slnil
  | cons a as ih =>
      exact List.Sublist.cons_cons a
        (List.filter_sublist.trans ih)

/- Every key is that of something that comes first. -/
theorem mem_map_firstBy_iff
    {as : List α}
    {k : κ} :
    k ∈ (firstBy key as).map key ↔ k ∈ as.map key := by
  induction as with
  | nil => rfl
  | cons a as ih =>
      rw [firstBy, List.map_cons, List.map_cons, List.mem_cons,
        List.mem_cons, ← ih]
      by_cases hk : k = key a
      · simp [hk]
      · rw [or_iff_right hk, or_iff_right hk, List.mem_map,
          List.mem_map]
        constructor
        · rintro ⟨b, hb, rfl⟩
          exact ⟨b, List.mem_of_mem_filter hb, rfl⟩
        · rintro ⟨b, hb, rfl⟩
          refine ⟨b, List.mem_filter.mpr ⟨hb, ?_⟩, rfl⟩
          simpa using hk

/- What comes first has nothing with its key in front of it. -/
theorem mem_firstBy_iff
    {as : List α}
    {a : α} :
    a ∈ firstBy key as ↔
      ∃ front back, as = front ++ a :: back ∧
        ∀ b ∈ front, key b ≠ key a := by
  induction as with
  | nil => simp [firstBy]
  | cons b as ih =>
      rw [firstBy, List.mem_cons, List.mem_filter, ih]
      constructor
      · rintro (rfl | ⟨⟨front, back, rfl, hFront⟩, hNe⟩)
        · exact ⟨[], as, rfl, by simp⟩
        · refine ⟨b :: front, back, rfl, ?_⟩
          rw [List.forall_mem_cons]
          refine ⟨fun hEq => ?_, hFront⟩
          simp [hEq] at hNe
      · rintro ⟨front, back, hEq, hFront⟩
        cases front with
        | nil => exact Or.inl (List.cons.inj hEq).1.symm
        | cons c front =>
            rcases List.cons.inj hEq with ⟨rfl, rfl⟩
            rw [List.forall_mem_cons] at hFront
            refine Or.inr ⟨⟨front, back, rfl, hFront.2⟩, ?_⟩
            simpa using Ne.symm hFront.1

/- Taking the first of each goes with a map that keeps keys. -/
theorem map_firstBy
    {β : Type}
    {k : β → κ}
    {f : α → β}
    (hKey : ∀ a, k (f a) = key a)
    (as : List α) :
    (firstBy key as).map f = firstBy k (as.map f) := by
  induction as with
  | nil => rfl
  | cons a as ih =>
      have hSame :
          (fun b => decide (k b ≠ key a)) ∘ f =
            fun b => decide (key b ≠ key a) := by
        funext b
        rw [Function.comp_apply, hKey]
      rw [firstBy, List.map_cons, List.map_cons, firstBy, ← ih,
        List.filter_map, hKey, hSame]

/- Without repetition, everything comes first. -/
theorem firstBy_of_nodup
    {as : List α}
    (h : (as.map key).Nodup) : firstBy key as = as := by
  induction as with
  | nil => rfl
  | cons a as ih =>
      rw [List.map_cons, List.nodup_cons] at h
      rw [firstBy, ih h.2, List.filter_eq_self.mpr]
      intro b hb
      have hNe : key b ≠ key a := by
        intro hEq
        rw [← hEq] at h
        exact h.1 (List.mem_map_of_mem hb)
      simpa using hNe

/- Taking the first of each keeps what corresponds by keys. -/
theorem forall₂_firstBy
    {β : Type}
    {R : α → β → Prop}
    {k : β → κ}
    {as : List α}
    {bs : List β}
    (hKey : ∀ a b, R a b → key a = k b)
    (h : List.Forall₂ R as bs) :
    List.Forall₂ R (firstBy key as) (firstBy k bs) := by
  induction h with
  | nil => exact List.Forall₂.nil
  | @cons a b as bs hHead hTail ih =>
      refine List.Forall₂.cons hHead (List.rel_filter ?_ ih)
      intro a' b' hRel
      simp [hKey a' b' hRel, hKey a b hHead]

end First

------------------------------------------------------------
-- What Elements Become
------------------------------------------------------------

/- What is left of a list and what it becomes correspond. -/
theorem forall₂_filter_filterMap
    {α β : Type}
    {R : α → β → Prop}
    {keeps : α → Bool}
    {image? : α → Option β}
    {as : List α}
    (hKept :
      ∀ a ∈ as, keeps a = true →
        ∃ b, image? a = some b ∧ R a b)
    (hOther : ∀ a ∈ as, keeps a = false → image? a = none) :
    List.Forall₂ R (as.filter keeps) (as.filterMap image?) := by
  induction as with
  | nil => exact List.Forall₂.nil
  | cons a as ih =>
      rw [List.forall_mem_cons] at hKept hOther
      have hRest := ih hKept.2 hOther.2
      cases hKeeps : keeps a with
      | true =>
          rcases hKept.1 hKeeps with ⟨b, hImage, hRelated⟩
          rw [List.filter_cons_of_pos hKeeps,
            List.filterMap_cons_some hImage]
          exact List.Forall₂.cons hRelated hRest
      | false =>
          rw [List.filter_cons_of_neg (by simp [hKeeps]),
            List.filterMap_cons_none (hOther.1 hKeeps)]
          exact hRest

theorem length_le_flatMap_cons
    {α β : Type}
    (f : α → β)
    (g : α → List β)
    (as : List α) :
    as.length ≤ (as.flatMap fun a => f a :: g a).length := by
  induction as with
  | nil => exact Nat.le_refl 0
  | cons a as ih =>
      rw [List.flatMap_cons, List.length_append, List.length_cons,
        List.length_cons]
      omega

/- Only the heads are left where nothing stands behind them. -/
theorem flatMap_cons_eq_map_iff
    {α β : Type}
    {f : α → β}
    {g : α → List β}
    {as : List α} :
    (as.flatMap fun a => f a :: g a) = as.map f ↔
      ∀ a ∈ as, g a = [] := by
  constructor
  · intro hEq
    induction as with
    | nil => simp
    | cons a as ih =>
        rw [List.flatMap_cons, List.map_cons, List.cons_append]
          at hEq
        have hRest := (List.cons.inj hEq).2
        have hLength := congrArg List.length hRest
        have hLong := length_le_flatMap_cons f g as
        rw [List.length_append, List.length_map] at hLength
        have hNil : g a = [] :=
          List.eq_nil_of_length_eq_zero (by omega)
        rw [hNil, List.nil_append] at hRest
        exact List.forall_mem_cons.mpr ⟨hNil, ih hRest⟩
  · intro hNil
    rw [List.map_eq_flatMap]
    exact List.flatMap_congr fun a ha => by rw [hNil a ha]

end SourceDocs
