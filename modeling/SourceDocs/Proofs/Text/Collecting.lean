import SourceDocs.Proofs.Text.Replacing
import SourceDocs.Proofs.Text.Sights

/-
  Collecting from a text, in the order of its characters.

  What is collected holds something for each character that
  no occurrence covers, and something for each occurrence.
  Where no occurrence reaches over the end of a text, what
  is collected from it and from the text behind it is what
  is collected from both.

  Key definitions include:
    * `SourceDocs.Text.collect`
    * `SourceDocs.Text.collectFrom`
    * `SourceDocs.Text.seen`

  Main results:
    * `SourceDocs.Text.cut_induction`
    * `SourceDocs.Text.collect_of_found`
    * `SourceDocs.Text.collect_append_of_skips`
    * `SourceDocs.Text.collect_append`
    * `SourceDocs.Text.collect_eq_self`
-/

------------------------------------------------------------
-- Induction
------------------------------------------------------------

namespace SourceDocs

namespace Text

variable {α β : Type}
variable {read : Reader α}

/-
  A text is empty, or starts with a character where nothing
  starts, or with an occurrence.
-/
theorem cut_induction
    (hSteady : read.Steady)
    {p : Text → Prop}
    (nil : p [])
    (skip :
      ∀ c t, read.Skips (c :: t) → p t → p (c :: t))
    (found :
      ∀ v x u, x ≠ [] → read none (x ++ u) = some (v, x) →
        p u → p (x ++ u))
    (t : Text) : p t := by
  induction hLength : t.length using Nat.strong_induction_on
    generalizing t with
  | _ n ih =>
      subst hLength
      cases t with
      | nil => exact nil
      | cons c t =>
          rcases skips_or_found hSteady (c :: t) with
            hSkips | ⟨v, x, u, hEq, hCovers, hRead⟩
          · exact skip c t hSkips
              (ih t.length (by simp) t rfl)
          · rw [hEq]
            refine found v x u hCovers hRead (ih _ ?_ u rfl)
            have hPos := List.length_pos_iff.mpr hCovers
            rw [hEq, List.length_append]
            omega

------------------------------------------------------------
-- Collecting
------------------------------------------------------------

/-
  What is collected from a cut: `pass` for each character
  between occurrences, and `take` for each occurrence.
-/
def collected
    (pass : Char → List β)
    (take : α → Text → List β)
    (cut : Cut α) : List β :=
  cut.occurrences.flatMap
      (fun o => o.gap.flatMap pass ++ take o.value o.covered) ++
    cut.rest.flatMap pass

/- Replacing collects the text between occurrences. -/
theorem replace_eq_collected
    (take : α → Text → Text)
    (cut : Cut α) :
    cut.replace (fun o => take o.value o.covered) =
      collected (fun c => [c]) take cut := by
  rw [Cut.replace, collected, List.flatMap_singleton']
  congr 1
  apply List.flatMap_congr
  intro o _
  rw [List.flatMap_singleton']

/- What is collected from a text. -/
def collect
    (read : Reader α)
    (pass : Char → List β)
    (take : α → Text → List β)
    (t : Text) : List β :=
  collected pass take (t.cut read)

variable {pass : Char → List β}
variable {take : α → Text → List β}

theorem collect_of_skips
    (hSteady : read.Steady)
    {t : Text}
    (hSkips : ∀ s, s <:+ t → s ≠ [] → read.Skips s) :
    collect read pass take t = t.flatMap pass := by
  rw [collect, (CutsTo.rest hSkips).cut_eq hSteady, collected]
  rfl

theorem collect_nil
    (hSteady : read.Steady) :
    collect read pass take [] = [] :=
  collect_of_skips hSteady fun _ hs hne =>
    absurd (List.suffix_nil.mp hs) hne

/- Collecting goes on behind an occurrence. -/
theorem collect_gap_append
    (hSteady : read.Steady)
    {gap x u : Text}
    {v : α}
    (hGap :
      ∀ s, s <:+ gap → s ≠ [] → read.Skips (s ++ (x ++ u)))
    (hFound : read none (x ++ u) = some (v, x))
    (hCovers : x ≠ []) :
    collect read pass take (gap ++ (x ++ u)) =
      gap.flatMap pass ++
        (take v x ++ collect read pass take u) := by
  have hCut :=
    CutsTo.next hGap hFound hCovers (cutsTo_cut hSteady u)
  rw [collect, hCut.cut_eq hSteady]
  simp [collect, collected]

theorem collect_of_found
    (hSteady : read.Steady)
    {x u : Text}
    {v : α}
    (hFound : read none (x ++ u) = some (v, x))
    (hCovers : x ≠ []) :
    collect read pass take (x ++ u) =
      take v x ++ collect read pass take u :=
  collect_gap_append hSteady (skips_of_nil_gap read (x ++ u))
    hFound hCovers

/- A front in which nothing starts is passed over. -/
theorem collect_append_of_skips
    (hSteady : read.Steady)
    {a t : Text}
    (hSkips : ∀ s, s <:+ a → s ≠ [] → read.Skips (s ++ t)) :
    collect read pass take (a ++ t) =
      a.flatMap pass ++ collect read pass take t := by
  have hCut := cutsTo_cut hSteady t
  generalize (t.cut read).occurrences = os at hCut
  generalize (t.cut read).rest = r at hCut
  cases hCut with
  | rest hNone =>
      have hWhole :=
        skips_of_gap_append (t := [])
          (by simpa using hNone) (by simpa using hSkips)
      rw [collect_of_skips hSteady hNone,
        collect_of_skips hSteady (by simpa using hWhole),
        List.flatMap_append]
  | @next gap x u _ v os hGap hFound hCovers hNext =>
      rw [collect_gap_append hSteady hGap hFound hCovers,
        ← List.append_assoc,
        collect_gap_append hSteady
          (skips_of_gap_append hGap hSkips) hFound hCovers,
        List.flatMap_append, List.append_assoc]

theorem collect_cons
    (hSteady : read.Steady)
    {c : Char}
    {t : Text}
    (hSkips : read.Skips (c :: t)) :
    collect read pass take (c :: t) =
      pass c ++ collect read pass take t := by
  have hFront :
      ∀ s, s <:+ [c] → s ≠ [] → read.Skips (s ++ t) := by
    intro s hs hne
    rcases List.suffix_cons_iff.mp hs with rfl | hs
    · exact hSkips
    · exact absurd (List.suffix_nil.mp hs) hne
  have h : collect read pass take ([c] ++ t) = _ :=
    collect_append_of_skips hSteady hFront
  simpa using h

/-
  Two texts in a row, where the second makes no difference
  to what is read in the first.
-/
theorem collect_append
    (hSteady : read.Steady)
    {a b : Text}
    (hParted :
      ∀ s, s <:+ a → s ≠ [] →
        read none (s ++ b) = read none s) :
    collect read pass take (a ++ b) =
      collect read pass take a ++ collect read pass take b := by
  have hInner :
      ∀ s a', s ++ a' <:+ a → s ≠ [] →
        read none (s ++ (a' ++ b)) = read none (s ++ a') := by
    intro s a' hs hne
    rw [← List.append_assoc]
    exact hParted _ hs (by simp [hne])
  clear hParted
  induction a using cut_induction hSteady with
  | nil => rw [collect_nil hSteady]; rfl
  | skip c t hSkips ih =>
      have hHere := hInner [c] t List.suffix_rfl (by simp)
      have hSkipsHere : read.Skips (c :: (t ++ b)) := by
        intro v x hRead
        rw [← List.singleton_append, hHere] at hRead
        exact hSkips v x hRead
      rw [List.cons_append, collect_cons hSteady hSkipsHere,
        collect_cons hSteady hSkips, ih, List.append_assoc]
      intro s a' hs hne
      exact hInner s a' (hs.trans (List.suffix_cons c t)) hne
  | found v x u hCovers hRead ih =>
      have hHere := hInner x u List.suffix_rfl hCovers
      rw [hRead] at hHere
      rw [List.append_assoc,
        collect_of_found hSteady hHere hCovers,
        collect_of_found hSteady hRead hCovers, ih,
        List.append_assoc]
      intro s a' hs hne
      exact hInner s a' (hs.trans (List.suffix_append x u)) hne

/- Everything taken as it is, a text is collected again. -/
theorem collect_eq_self
    (hSteady : read.Steady)
    {take : α → Text → Text}
    {t : Text}
    (h :
      ∀ o ∈ (t.cut read).occurrences,
        take o.value o.covered = o.covered) :
    collect read (fun c => [c]) take t = t := by
  have hAll :
      (t.cut read).occurrences.flatMap
          (fun o => o.gap.flatMap (fun c => [c]) ++
            take o.value o.covered) =
        (t.cut read).occurrences.flatMap
          (fun o => o.gap ++ o.covered) := by
    apply List.flatMap_congr
    intro o ho
    rw [h o ho, List.flatMap_singleton']
  rw [collect, collected, hAll, List.flatMap_singleton']
  exact (cutsTo_cut hSteady t).text_eq.symm

/- What is read in a text, each with what it covers. -/
def seen
    (read : Reader α)
    (t : Text) : List (α × Text) :=
  collect read (fun _ => []) (fun v x => [(v, x)]) t

theorem seen_eq (t : Text) :
    seen read t =
      (t.cut read).occurrences.map
        fun o => (o.value, o.covered) := by
  have hNone : ∀ g : Text,
      g.flatMap (fun _ => ([] : List (α × Text))) = [] := by
    simp
  rw [seen, collect, collected, hNone, List.append_nil]
  simp only [hNone, List.nil_append]
  exact List.flatMap_pure_eq_map _ _

/- What is seen was read somewhere in the text. -/
theorem exists_of_mem_seen
    (hSteady : read.Steady)
    {t x : Text}
    {v : α}
    (h : (v, x) ∈ seen read t) :
    ∃ u, x ++ u <:+ t ∧ read none (x ++ u) = some (v, x) := by
  rw [seen_eq] at h
  rcases List.mem_map.mp h with ⟨o, ho, hEq⟩
  cases hEq
  have hCut := cutsTo_cut hSteady t
  exact ⟨o.after, hCut.suffix ho, hCut.found ho⟩

/- Nothing is seen where nothing starts. -/
theorem seen_of_skips
    (hSteady : read.Steady)
    {t : Text}
    (hSkips : ∀ s, s <:+ t → s ≠ [] → read.Skips s) :
    seen read t = [] := by
  rw [seen, collect_of_skips hSteady hSkips]
  simp

------------------------------------------------------------
-- Readers That Look Back
------------------------------------------------------------

variable {before : Option Char}

/- The gap comes before all else. -/
theorem collected_gap
    (skip : Nat)
    (gap t : Text) :
    collected pass take (cutFrom read before skip gap t) =
      gap.reverse.flatMap pass ++
        collected pass take (cutFrom read before skip [] t) := by
  induction t generalizing before skip gap with
  | nil => simp [collected, cutFrom]
  | cons c cs ih =>
      cases skip with
      | succ skip =>
          rw [cutFrom, cutFrom]
          exact ih skip gap
      | zero =>
          rw [cutFrom.eq_def, cutFrom.eq_def]
          dsimp only
          split
          · simp [collected, Cut.cons]
          · rw [ih 0 (c :: gap), ih 0 [c]]
            simp

/- What a text is cut at was read, wherever it stands. -/
theorem exists_read_of_mem_cutFrom
    {skip : Nat}
    {gap t : Text}
    {o : Occurrence α}
    (ho : o ∈ (cutFrom read before skip gap t).occurrences) :
    ∃ b u, read b u = some (o.value, o.covered) := by
  induction t generalizing before skip gap with
  | nil => simp [cutFrom] at ho
  | cons c cs ih =>
      cases skip with
      | succ skip =>
          rw [cutFrom] at ho
          exact ih ho
      | zero =>
          rw [cutFrom.eq_def] at ho
          dsimp only at ho
          split at ho
          · next v d ds hRead =>
              rcases List.mem_cons.mp ho with rfl | ho
              · exact ⟨before, c :: cs, hRead⟩
              · exact ih ho
          · exact ih ho

/- What is collected from a text behind a character. -/
def collectFrom
    (read : Reader α)
    (pass : Char → List β)
    (take : α → Text → List β)
    (before : Option Char)
    (t : Text) : List β :=
  collected pass take (cutFrom read before 0 [] t)

theorem collectFrom_none (t : Text) :
    collectFrom read pass take none t =
      collect read pass take t := rfl

/- Where nothing is read, a character is passed over. -/
theorem collectFrom_cons
    {c : Char}
    {t : Text}
    (hNone : read before (c :: t) = none) :
    collectFrom read pass take before (c :: t) =
      pass c ++ collectFrom read pass take (some c) t := by
  rw [collectFrom, cutFrom, hNone]
  simpa [collectFrom] using collected_gap 0 [c] t

/- What is covered is passed over. -/
theorem collectFrom_of_found
    {x u : Text}
    {v : α}
    (hFound : read before (x ++ u) = some (v, x))
    (hCovers : x ≠ []) :
    collectFrom read pass take before (x ++ u) =
      take v x ++
        collectFrom read pass take (x.getLast?.or before) u := by
  rcases List.exists_cons_of_ne_nil hCovers with ⟨d, ds, rfl⟩
  have hSkip :
      cutFrom read before (d :: ds).length [] (d :: ds ++ u) = _ :=
    cutFrom_length before (d :: ds) u
  rw [List.length_cons, List.cons_append, cutFrom] at hSkip
  rw [List.cons_append] at hFound ⊢
  rw [collectFrom, cutFrom, hFound]
  simp only [hSkip, collectFrom, collected, Cut.cons,
    List.flatMap_cons, List.reverse_nil, List.flatMap_nil,
    List.nil_append, List.append_assoc]

end Text

end SourceDocs
