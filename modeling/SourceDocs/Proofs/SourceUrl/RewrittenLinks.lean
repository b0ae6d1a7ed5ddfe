import SourceDocs.Proofs.SourceUrl.Rewriting
import SourceDocs.Proofs.SourceUrl.WebLinks

/-
  Links in a text whose stand-ins were written anew.

  What is written for a stand-in holds no bracket and ends
  where the stand-in ended. So a link stands in the new text
  only where one stood in the old text, and the target of a
  link that was kept still is.

  Main results:
    * `SourceDocs.StandInUrl.Rewritten.exists_split`
    * `SourceDocs.StandInUrl.Rewritten.webReader_skips`
    * `SourceDocs.SourceRepair.keepsLinks_repairStandIns`
-/

------------------------------------------------------------
-- Parts Of Rewritten Texts
------------------------------------------------------------

namespace SourceDocs

/- A mark that is not in the first of two texts. -/
theorem Text.exists_of_append_eq_mark
    {mark : Char}
    {x a b t : Text}
    (hx : mark ∉ x)
    (h : x ++ t = a ++ mark :: b) :
    ∃ a', a = x ++ a' ∧ t = a' ++ mark :: b := by
  rcases List.append_eq_append_iff.mp h with
    ⟨a', rfl, ht⟩ | ⟨x', rfl, hx'⟩
  · exact ⟨a', rfl, ht⟩
  · cases x' with
    | nil => exact ⟨[], by simp, hx'.symm⟩
    | cons d x' =>
        cases (List.cons.inj hx').1
        exact absurd (by simp) hx

namespace StandInUrl

theorem Ends.of_append
    {a t : Text}
    (h : Ends (a ++ t)) : Ends a := by
  intro c hc
  apply h
  cases a with
  | nil => cases hc
  | cons d a => exact hc

namespace Rewritten

variable {a b : Text}
variable {c : Char}

/- A sign is in no address. -/
theorem not_mem_of_new
    {y : Text}
    (hSign : c ∈ Link.signs)
    (hNew : y = [] ∨ Link.IsAddress y) : c ∉ y := by
  rcases hNew with rfl | hNew
  · exact List.not_mem_nil
  · exact fun hc => hNew.free c hc hSign

/- Signs stay, and all text between them is rewritten. -/
theorem exists_split
    (h : Rewritten a b)
    (hSign : c ∈ Link.signs)
    {b₁ b₂ : Text}
    (hEq : b = b₁ ++ c :: b₂) :
    ∃ a₁ a₂, a = a₁ ++ c :: a₂ ∧
      Rewritten a₁ b₁ ∧ Rewritten a₂ b₂ := by
  induction h generalizing b₁ with
  | nil => simp at hEq
  | @same a b d h ih =>
      cases b₁ with
      | nil =>
          rw [List.nil_append, List.cons.injEq] at hEq
          rcases hEq with ⟨rfl, rfl⟩
          exact ⟨[], a, rfl, .nil, h⟩
      | cons e b₁ =>
          rw [List.cons_append, List.cons.injEq] at hEq
          rcases hEq with ⟨rfl, hEq⟩
          rcases ih hEq with ⟨a₁, a₂, rfl, hLeft, hRight⟩
          exact ⟨d :: a₁, a₂, rfl, hLeft.same d, hRight⟩
  | @swap x y a b hOld hNew hEnds h ih =>
      rcases Text.exists_of_append_eq_mark
        (not_mem_of_new hSign hNew) hEq with ⟨b', rfl, hb⟩
      rcases ih hb with ⟨a₁, a₂, rfl, hLeft, hRight⟩
      refine ⟨x ++ a₁, a₂, by simp, ?_, hRight⟩
      exact .swap hOld hNew hEnds.of_append hLeft

/- The same, from the old text on. -/
theorem exists_split_old
    (h : Rewritten a b)
    (hSign : c ∈ Link.signs)
    {a₁ a₂ : Text}
    (hEq : a = a₁ ++ c :: a₂) :
    ∃ b₁ b₂, b = b₁ ++ c :: b₂ ∧
      Rewritten a₁ b₁ ∧ Rewritten a₂ b₂ := by
  induction h generalizing a₁ with
  | nil => simp at hEq
  | @same a b d h ih =>
      cases a₁ with
      | nil =>
          rw [List.nil_append, List.cons.injEq] at hEq
          rcases hEq with ⟨rfl, rfl⟩
          exact ⟨[], b, rfl, .nil, h⟩
      | cons e a₁ =>
          rw [List.cons_append, List.cons.injEq] at hEq
          rcases hEq with ⟨rfl, hEq⟩
          rcases ih hEq with ⟨b₁, b₂, rfl, hLeft, hRight⟩
          exact ⟨d :: b₁, b₂, rfl, hLeft.same d, hRight⟩
  | @swap x y a b hOld hNew hEnds h ih =>
      rcases Text.exists_of_append_eq_mark
        (not_mem_of_new hSign (Or.inr hOld)) hEq with
        ⟨a', rfl, rfl⟩
      rcases ih rfl with ⟨b₁, b₂, rfl, hLeft, hRight⟩
      refine ⟨y ++ b₁, b₂, by simp, ?_, hRight⟩
      exact .swap hOld hNew hEnds.of_append hLeft

/- There are as many of each sign. -/
theorem count_eq
    (h : Rewritten a b)
    (hSign : c ∈ Link.signs) : a.count c = b.count c := by
  induction h with
  | nil => rfl
  | same d h ih => rw [List.count_cons, List.count_cons, ih]
  | swap hOld hNew hEnds h ih =>
      rw [List.count_append, List.count_append, ih,
        List.count_eq_zero.mpr
          (not_mem_of_new hSign (Or.inr hOld)),
        List.count_eq_zero.mpr (not_mem_of_new hSign hNew)]

theorem mem_iff
    (h : Rewritten a b)
    (hSign : c ∈ Link.signs) : c ∈ a ↔ c ∈ b := by
  rw [← List.count_pos_iff, h.count_eq hSign, List.count_pos_iff]

/- No blank comes in, and none goes. -/
theorem blank_iff
    (h : Rewritten a b) :
    (∀ c ∈ a, isBlank c = false) ↔
      ∀ c ∈ b, isBlank c = false := by
  induction h with
  | nil => rfl
  | same d h ih =>
      rw [List.forall_mem_cons, List.forall_mem_cons, ih]
  | @swap x y a b hOld hNew hEnds h ih =>
      have hx := Link.not_blank_of_isWebTarget hOld.web
      have hy : ∀ c ∈ y, isBlank c = false := by
        rcases hNew with rfl | hNew
        · simp
        · exact Link.not_blank_of_isWebTarget hNew.web
      rw [List.forall_mem_append, List.forall_mem_append, ih,
        and_iff_right hx, and_iff_right hy]

/- A character that is in a stand-in but does not start one. -/
theorem exists_of_cons
    (hNot : c ≠ 'h')
    (hRest : isRestChar c = true)
    (h : Rewritten a (c :: b)) :
    ∃ a', a = c :: a' ∧ Rewritten a' b := by
  generalize hEq : c :: b = b' at h
  cases h with
  | nil => cases hEq
  | same d h =>
      cases hEq
      exact ⟨_, rfl, h⟩
  | @swap x y a b' hOld hNew hEnds h =>
      rcases hNew with rfl | hNew
      · rw [List.nil_append] at hEq
        have hEnd := h.ends hEnds c (by rw [← hEq]; rfl)
        rw [hRest] at hEnd
        cases hEnd
      · rcases hNew.exists_eq with ⟨u, rfl⟩
        exact absurd (List.cons.inj hEq).1 hNot

theorem eq_nil_of_nil
    (h : Rewritten [] b) : b = [] := by
  generalize hEq : ([] : Text) = a at h
  cases h with
  | nil => rfl
  | same d h => cases hEq
  | swap hOld hNew hEnds h =>
      rcases hOld.exists_eq with ⟨u, rfl⟩
      cases hEq

/- What follows a text that no address starts with. -/
theorem of_append
    {p : Text}
    (hInner : IsInner p)
    (h : Rewritten (p ++ a) (p ++ b)) : Rewritten a b := by
  induction p with
  | nil => exact h
  | cons d p ih =>
      have hTail : IsInner p :=
        ⟨fun q hq => hInner.1 q (hq.trans (List.suffix_cons d p)),
          fun c hc => hInner.2 c (List.mem_cons_of_mem d hc)⟩
      generalize hOldEq : d :: p ++ a = a' at h
      generalize hNewEq : d :: p ++ b = b' at h
      cases h with
      | nil => cases hOldEq
      | same e h =>
          rw [List.cons_append, List.cons.injEq] at hOldEq hNewEq
          rcases hOldEq with ⟨-, rfl⟩
          rcases hNewEq with ⟨-, rfl⟩
          exact ih hTail h
      | swap hOld hNew hEnds h =>
          exact absurd ⟨a, hOldEq⟩
            (not_prefix_of_isAddress hInner (by simp) hOld)

/- A web address in the new text was one in the old. -/
theorem isWebTarget_of_isWebTarget
    (h : Rewritten a b)
    (hWeb : Link.isWebTarget b = true) :
    Link.isWebTarget a = true := by
  have hBlank :=
    h.blank_iff.mpr (Link.not_blank_of_isWebTarget hWeb)
  rcases Link.isWebTarget_iff.mp hWeb with
    ⟨scheme, hScheme, address, hEq, hNil, -⟩
  rw [Link.isWebTarget_iff]
  cases h with
  | nil =>
      have hSchemes : ∀ scheme ∈ schemes, scheme ≠ [] := by
        decide
      have hBoth := List.append_eq_nil_iff.mp hEq.symm
      exact absurd hBoth.1 (hSchemes scheme hScheme)
  | @same a b d h =>
      have hInner : IsInner scheme.tail := by
        have hTails :
            ∀ scheme ∈ schemes, ∀ q ∈ scheme.tail.tails,
              q ≠ [] → ¬ q.take 2 <+: ['h', 't'] := by
          decide
        have hRest :
            ∀ scheme ∈ schemes, ∀ c ∈ scheme.tail,
              isRestChar c = true := by
          decide
        exact ⟨fun q hq => hTails scheme hScheme q
          ((List.mem_tails _ _).mpr hq), hRest scheme hScheme⟩
      have hCons :
          ∀ scheme ∈ schemes, scheme = 'h' :: scheme.tail := by
        decide
      rw [hCons scheme hScheme, List.cons_append,
        List.cons.injEq] at hEq
      rcases hEq with ⟨rfl, rfl⟩
      rcases (h.prefix_iff hInner).mpr
        (List.prefix_append _ address) with ⟨address', rfl⟩
      refine ⟨scheme, hScheme, address', ?_, ?_, ?_⟩
      · rw [← List.cons_append, ← hCons scheme hScheme]
      · rintro rfl
        exact hNil (eq_nil_of_nil (of_append hInner h))
      · intro c hc
        exact hBlank c
          (List.mem_cons_of_mem 'h' (List.mem_append_right _ hc))
  | @swap x y a b hOld hNew hEnds h =>
      rcases Link.isWebTarget_iff.mp hOld.web with
        ⟨scheme', hScheme', address', rfl, hNil', -⟩
      refine ⟨scheme', hScheme', address' ++ a, by simp,
        by simp [hNil'], fun c hc => ?_⟩
      apply hBlank
      rw [List.append_assoc]
      exact List.mem_append_right scheme' hc

/- A link is read only where one was read. -/
theorem webReader_skips
    (h : Rewritten a b)
    (hSkips : Link.webReader.Skips a) :
    Link.webReader.Skips b := by
  rw [Link.webReader_skips_iff] at hSkips ⊢
  rintro ⟨label, target⟩ hWritable hWeb ⟨u, hEq⟩
  have hParts :
      b =
        '[' :: (label ++ ']' :: '(' :: (target ++ ')' :: u)) := by
    rw [← hEq]
    simp [Link.render]
  subst hParts
  rcases exists_of_cons (by decide) (by decide) h with
    ⟨a₁, rfl, h₁⟩
  rcases h₁.exists_split (c := ']') (by decide) rfl with
    ⟨label', a₂, rfl, hLabel, h₂⟩
  rcases exists_of_cons (by decide) (by decide) h₂ with
    ⟨a₃, rfl, h₃⟩
  rcases h₃.exists_split (c := ')') (by decide) rfl with
    ⟨target', u', rfl, hTarget, -⟩
  have hLabelFree : ']' ∉ label' := by
    rw [hLabel.mem_iff (by decide)]
    exact hWritable.label
  have hTargetFree : ')' ∉ target' := by
    rw [hTarget.mem_iff (by decide)]
    exact hWritable.target
  have hTargetWeb := hTarget.isWebTarget_of_isWebTarget hWeb
  refine hSkips ⟨label', target'⟩
    (Link.isWritable_of_web hLabelFree hTargetFree hTargetWeb)
    hTargetWeb ⟨u', ?_⟩
  simp [Link.render]

end Rewritten

end StandInUrl

------------------------------------------------------------
-- Links After Repair
------------------------------------------------------------

namespace SourceRepair

variable {repair : SourceRepair}

theorem settlesStandIns_of_append
    {a t : Text}
    (hEnds : StandInUrl.Ends t) :
    repair.SettlesStandIns (a ++ t) ↔
      repair.SettlesStandIns a ∧ repair.SettlesStandIns t := by
  simp only [SettlesStandIns]
  rw [StandInUrl.seen_append_of_ends hEnds,
    List.forall_mem_append]

/- A front with a host in it is longer than any scheme. -/
theorem scheme_prefix_of_reader
    {gap x u scheme t : Text}
    {v : StandInUrl}
    (hRead : StandInUrl.reader none (x ++ u) = some (v, x))
    (hScheme : scheme ∈ StandInUrl.schemes)
    (hLeft : gap ++ x <+: t)
    (hRight : scheme <+: t) :
    ∃ more, more ≠ [] ∧ gap ++ x = scheme ++ more := by
  rcases StandInUrl.reader_eq_some_iff.mp hRead with
    ⟨front, hFront, rest, -, -, -, rfl⟩
  have hLonger :
      ∀ front ∈ StandInUrl.fronts,
        ∀ scheme ∈ StandInUrl.schemes,
          scheme.length < front.length := by
    decide
  have hLength :
      scheme.length <
        (gap ++ (front ++ StandInUrl.restOf rest)).length := by
    have h := hLonger front hFront scheme hScheme
    simp only [List.length_append]
    omega
  rcases List.prefix_of_prefix_length_le hRight hLeft
    (Nat.le_of_lt hLength) with ⟨more, hEq⟩
  refine ⟨more, ?_, hEq.symm⟩
  rintro rfl
  rw [List.append_nil] at hEq
  rw [← hEq] at hLength
  exact absurd hLength (Nat.lt_irrefl _)

/- A web address that is kept stays one. -/
theorem isWebTarget_repairStandIns
    {target : Text}
    (h : repair.SettlesStandIns target)
    (hKept : repair.repairUrl target = .keep)
    (hWeb : Link.isWebTarget target = true) :
    Link.isWebTarget (repair.repairStandIns target) = true := by
  cases hSeen : Text.seen StandInUrl.reader target with
  | nil =>
      have hNone : repair.KeepsStandIns target := by
        intro found hFound
        rw [hSeen] at hFound
        cases hFound
      rwa [repairStandIns_eq_self hNone]
  | cons found rest =>
      rcases found with ⟨v, x⟩
      rw [repairUrl_of_seen_cons hSeen] at hKept
      have hMem : (v, x) ∈ Text.seen StandInUrl.reader target := by
        rw [hSeen]
        exact List.mem_cons_self
      rcases Text.exists_of_mem_seen StandInUrl.reader_steady hMem
        with ⟨u, -, hRead⟩
      rcases seen_repairStandIns h hSeen hKept with
        ⟨-, gap, -, hOld, ⟨behind, hNew⟩⟩
      rcases Link.isWebTarget_iff.mp hWeb with
        ⟨scheme, hScheme, address, hEq, -⟩
      rcases scheme_prefix_of_reader hRead hScheme hOld
        ⟨address, hEq.symm⟩ with ⟨more, hNil, hMore⟩
      have hBlank :=
        (rewritten_repairStandIns h).blank_iff.mp
          (Link.not_blank_of_isWebTarget hWeb)
      rw [hMore, List.append_assoc] at hNew
      refine Link.isWebTarget_iff.mpr
        ⟨scheme, hScheme, more ++ behind, hNew.symm,
          by simp [hNil], fun c hc => hBlank c ?_⟩
      rw [← hNew]
      exact List.mem_append_right scheme hc

theorem link_eq
    (gap label target u : Text) :
    gap ++ (Link.render ⟨label, target⟩ ++ u) =
      (gap ++ '[' :: label) ++
        ']' :: '(' :: (target ++ ')' :: u) := by
  simp [Link.render]

/- In the text of a link each part is repaired by itself. -/
theorem repairStandIns_link
    (gap label target u : Text) :
    repair.repairStandIns
        (gap ++ (Link.render ⟨label, target⟩ ++ u)) =
      repair.repairStandIns (gap ++ '[' :: label) ++
        ']' :: '(' :: (repair.repairStandIns target ++
          ')' :: repair.repairStandIns u) := by
  have hClose : StandInUrl.isRestChar ']' = false := by decide
  have hEnd : StandInUrl.isRestChar ')' = false := by decide
  rw [link_eq,
    repairStandIns_append (StandInUrl.ends_cons hClose _),
    repairStandIns_cons
      (StandInUrl.reader_of_ne (by decide) _),
    repairStandIns_cons
      (StandInUrl.reader_of_ne (by decide) _),
    repairStandIns_append (StandInUrl.ends_cons hEnd _),
    repairStandIns_cons
      (StandInUrl.reader_of_ne (by decide) _)]

theorem settlesStandIns_link
    {gap label target u : Text}
    (h :
      repair.SettlesStandIns
        (gap ++ (Link.render ⟨label, target⟩ ++ u))) :
    repair.SettlesStandIns (gap ++ '[' :: label) ∧
      repair.SettlesStandIns target ∧
      repair.SettlesStandIns u := by
  have hClose : StandInUrl.isRestChar ']' = false := by decide
  have hEnd : StandInUrl.isRestChar ')' = false := by decide
  have hPass :
      ∀ c t, c ≠ 'h' →
        repair.SettlesStandIns (c :: t) →
        repair.SettlesStandIns t := by
    intro c t hc h
    rwa [SettlesStandIns,
      StandInUrl.seen_cons (StandInUrl.reader_of_ne hc t)] at h
  rw [link_eq,
    settlesStandIns_of_append (StandInUrl.ends_cons hClose _)] at h
  have hBehind :=
    hPass '(' _ (by decide) (hPass ']' _ (by decide) h.2)
  rw [settlesStandIns_of_append (StandInUrl.ends_cons hEnd _)]
    at hBehind
  exact ⟨h.1, hBehind.1, hPass ')' _ (by decide) hBehind.2⟩

/-
  In front of a link whose parts were rewritten no link
  starts if none started in front of the old one.
-/
theorem skips_of_rewritten
    {gap gap' x x' : Text}
    (h : StandInUrl.Rewritten (gap ++ x) (gap' ++ x'))
    (hCount : x.count '[' = x'.count '[')
    (hGap :
      ∀ s, s <:+ gap → s ≠ [] → Link.webReader.Skips (s ++ x)) :
    ∀ s, s <:+ gap' → s ≠ [] →
      Link.webReader.Skips (s ++ x') := by
  intro s hs hNil
  rcases List.exists_cons_of_ne_nil hNil with ⟨c, q', rfl⟩
  by_cases hc : c = '['
  · subst hc
    rcases hs with ⟨p', rfl⟩
    have hText :
        p' ++ '[' :: q' ++ x' = p' ++ '[' :: (q' ++ x') := by
      simp
    rcases h.exists_split (by decide) hText with
      ⟨p, q, hEq, -, hq⟩
    have hMore : ('[' :: q).count '[' > x.count '[' := by
      rw [List.count_cons_self, hq.count_eq (by decide),
        List.count_append, hCount]
      omega
    -- There are too many brackets for it to start behind.
    rcases Text.suffix_append_cases ⟨p, hEq.symm⟩ with
      hIn | ⟨s, hStart, hs⟩
    · exact absurd (hIn.sublist.count_le '[') (by omega)
    · rw [List.cons_append]
      apply (hq.same '[').webReader_skips
      rw [hStart]
      apply hGap s hs
      rintro rfl
      rw [hStart, List.nil_append] at hMore
      exact absurd hMore (Nat.lt_irrefl _)
  · exact Link.webReader_skips_of_ne hc _

/-
  Repair of the stand-ins makes no new link into the web,
  and the links that are there are still kept.
-/
theorem keepsLinks_of_cutsTo_rewritten
    {t r : Text}
    {os : List (Occurrence Link)}
    (hCut : Text.CutsTo Link.webReader t os r)
    (hLinks :
      ∀ o ∈ os, repair.repairUrl o.value.target = .keep)
    (h : repair.SettlesStandIns t) :
    repair.KeepsLinks (repair.repairStandIns t) := by
  induction hCut with
  | @rest t hSkips =>
      have hRewritten := rewritten_repairStandIns h
      rw [← List.append_nil t,
        ← List.append_nil (repair.repairStandIns _)]
        at hRewritten
      apply keepsLinks_of_skips
      have hNone :=
        skips_of_rewritten hRewritten rfl (by simpa using hSkips)
      simpa using hNone
  | @next gap x u r link os hGap hFound hCovers hRest ih =>
      rw [List.forall_mem_cons] at hLinks
      rcases Link.webReader_eq_some_iff.mp hFound with
        ⟨hWritable, hWeb, -, rfl⟩
      rcases link with ⟨label, target⟩
      rcases settlesStandIns_link h with ⟨hFront, hTarget, hTail⟩
      rcases (rewritten_repairStandIns hFront).exists_split_old
        (c := '[') (by decide) rfl with
        ⟨gap', label', hParts, -, hLabel⟩
      have hText :
          repair.repairStandIns
              (gap ++ (Link.render ⟨label, target⟩ ++ u)) =
            gap' ++
              (Link.render
                  ⟨label', repair.repairStandIns target⟩ ++
                repair.repairStandIns u) := by
        rw [repairStandIns_link, hParts, link_eq]
      have hRewritten := rewritten_repairStandIns h
      have hLabelFree : ']' ∉ label' := by
        rw [← hLabel.mem_iff (by decide)]
        exact hWritable.label
      have hTargetFree :
          ')' ∉ repair.repairStandIns target := by
        rw [← (rewritten_repairStandIns hTarget).mem_iff
          (by decide)]
        exact hWritable.target
      have hTargetWeb :=
        isWebTarget_repairStandIns hTarget hLinks.1 hWeb
      rw [hText] at hRewritten ⊢
      apply keepsLinks_append_of_skips
      · apply skips_of_rewritten hRewritten _ hGap
        simp [Link.render, List.count_append,
          hLabel.count_eq (c := '[') (by decide),
          (rewritten_repairStandIns hTarget).count_eq (c := '[')
            (by decide),
          (rewritten_repairStandIns hTail).count_eq (c := '[')
            (by decide)]
      · exact keepsLinks_render_append
          (Link.isWritable_of_web hLabelFree hTargetFree
            hTargetWeb)
          hTargetWeb (repairUrl_repairStandIns hTarget hLinks.1)
          (ih hLinks.2 hTail)

theorem keepsLinks_repairStandIns
    {t : Text}
    (hLinks : repair.KeepsLinks t)
    (h : repair.SettlesStandIns t) :
    repair.KeepsLinks (repair.repairStandIns t) := by
  refine keepsLinks_of_cutsTo_rewritten
    (Text.cutsTo_cut Link.webReader_steady t) (fun o ho => ?_) h
  apply hLinks (o.value, o.covered)
  rw [Text.seen_eq]
  exact List.mem_map_of_mem (f := fun o => (o.value, o.covered)) ho

end SourceRepair

end SourceDocs
