import SourceDocs.Proofs.Markdown.LinkSyntax
import SourceDocs.Proofs.SourceUrl.StandInRepair

/-
  Repair of the links into the web.

  A link that is kept or gets another target starts where it
  started. In place of one that is removed stands its label,
  in which no link starts if no bracket opens there; and the
  text before it starts none if it does not break off
  between a label and the scheme of a target.

  Key definitions include:
    * `SourceDocs.Link.OpensTarget`
    * `SourceDocs.SourceRepair.KeepsLinks`
    * `SourceDocs.SourceRepair.KeepsTarget`
    * `SourceDocs.SourceRepair.SettlesLink`

  Main results:
    * `SourceDocs.Link.webReader_eq_some_iff`
    * `SourceDocs.Link.skips_of_skips_render`
    * `SourceDocs.SourceRepair.keepsLinks_repairLinks`
-/

------------------------------------------------------------
-- Reading Links
------------------------------------------------------------

namespace SourceDocs

/- A text goes on to the first mark in it or behind it. -/
theorem Text.exists_takeWhile_ne_append
    (mark : Char)
    (t u : Text) :
    ∃ w,
      t ++ mark :: u = t.takeWhile (· ≠ mark) ++ mark :: w := by
  induction t with
  | nil => exact ⟨u, rfl⟩
  | cons c t ih =>
      by_cases hc : c = mark
      · subst hc
        exact ⟨t ++ c :: u, by simp⟩
      · rcases ih with ⟨w, hw⟩
        refine ⟨w, ?_⟩
        rw [List.takeWhile_cons_of_pos (by simpa using hc),
          List.cons_append, List.cons_append, hw]

/- What is taken of two texts in a row is of one of them. -/
theorem Text.mem_takeWhile_append
    {p : Char → Bool}
    {a b : Text}
    {c : Char}
    (hc : c ∈ (a ++ b).takeWhile p) :
    c ∈ a.takeWhile p ∨ c ∈ b := by
  induction a with
  | nil => exact Or.inr (List.takeWhile_subset p hc)
  | cons d a ih =>
      rw [List.cons_append, List.takeWhile_cons] at hc
      rw [List.takeWhile_cons]
      split_ifs at hc ⊢
      · rcases List.mem_cons.mp hc with rfl | hc
        · exact Or.inl List.mem_cons_self
        · exact (ih hc).imp_left (List.mem_cons_of_mem d)
      · cases hc

/- What is taken of a text is taken of a longer one. -/
theorem Text.mem_takeWhile_of_mem
    {p : Char → Bool}
    {a : Text}
    {c : Char}
    (hc : c ∈ a.takeWhile p)
    (b : Text) : c ∈ (a ++ b).takeWhile p := by
  induction a with
  | nil => cases hc
  | cons d a ih =>
      rw [List.takeWhile_cons] at hc
      rw [List.cons_append, List.takeWhile_cons]
      split_ifs at hc ⊢
      · rcases List.mem_cons.mp hc with rfl | hc
        · exact List.mem_cons_self
        · exact List.mem_cons_of_mem d (ih hc)
      · cases hc

namespace Link

theorem webReader_eq_some_iff
    {before : Option Char}
    {t x : Text}
    {link : Link} :
    webReader before t = some (link, x) ↔
      link.IsWritable ∧ isWebTarget link.target = true ∧
        link.render <+: t ∧ x = link.render := by
  simp only [webReader, Option.filter_eq_some_iff,
    reader_eq_some_iff, read?_eq_some_iff]
  constructor
  · rintro ⟨⟨⟨hWritable, hPrefix⟩, rfl⟩, hWeb⟩
    exact ⟨hWritable, hWeb, hPrefix, rfl⟩
  · rintro ⟨hWritable, hWeb, hPrefix, rfl⟩
    exact ⟨⟨⟨hWritable, hPrefix⟩, rfl⟩, hWeb⟩

theorem webReader_steady : webReader.Steady where
  forgetful _ _ := rfl
  covers h := by
    rcases webReader_eq_some_iff.mp h with ⟨-, -, hPrefix, rfl⟩
    exact hPrefix

/- A place is skipped if no link into the web stands there. -/
theorem webReader_skips_iff
    (t : Text) :
    webReader.Skips t ↔
      ∀ link : Link, link.IsWritable →
        isWebTarget link.target = true → ¬ link.render <+: t := by
  constructor
  · intro hSkips link hWritable hWeb hPrefix
    have hRead : webReader none t = some (link, link.render) :=
      webReader_eq_some_iff.mpr ⟨hWritable, hWeb, hPrefix, rfl⟩
    exact render_ne_nil link (hSkips _ _ hRead)
  · intro hNone link x hRead
    rcases webReader_eq_some_iff.mp hRead with
      ⟨hWritable, hWeb, hPrefix, -⟩
    exact absurd hPrefix (hNone link hWritable hWeb)

/- No link starts with any other character. -/
theorem webReader_skips_of_ne
    {c : Char}
    (hc : c ≠ '[')
    (t : Text) : webReader.Skips (c :: t) := by
  rw [webReader_skips_iff]
  rintro link - - ⟨u, hEq⟩
  exact hc (List.cons.inj hEq).1.symm

theorem isWritable_of_web
    {label target : Text}
    (hLabel : ']' ∉ label)
    (hTarget : ')' ∉ target)
    (hWeb : isWebTarget target = true) :
    IsWritable ⟨label, target⟩ := by
  refine ⟨hLabel, hTarget, ?_⟩
  rintro rfl
  exact absurd hWeb (by decide)

------------------------------------------------------------
-- Broken Off Links
------------------------------------------------------------

/- What stands between a label and an address. -/
def openings : List Text :=
  StandInUrl.schemes.map ("](".toList ++ ·)

/- Whether a text breaks off between label and address. -/
def OpensTarget (t : Text) : Prop :=
  ∃ opening ∈ openings, ∃ p ∈ opening.inits,
    p ≠ [] ∧ p ≠ opening ∧ p <:+ t

instance (t : Text) : Decidable (OpensTarget t) :=
  inferInstanceAs
    (Decidable (∃ opening ∈ openings, ∃ p ∈ opening.inits, _))

variable {link : Link}

/- A label that breaks off before a link goes on in it. -/
theorem not_skips_of_label
    (hWritable : link.IsWritable)
    (hWeb : isWebTarget link.target = true)
    {label : Text}
    (hLabel : ']' ∉ label)
    (u : Text) :
    ¬ webReader.Skips ('[' :: label ++ (link.render ++ u)) := by
  rw [webReader_skips_iff]
  intro hNone
  rcases link with ⟨label', target⟩
  have hLonger : ']' ∉ label ++ '[' :: label' := by
    simp [hLabel, hWritable.label]
  refine hNone ⟨label ++ '[' :: label', target⟩
    (isWritable_of_web hLonger hWritable.target hWeb) hWeb
    ⟨u, ?_⟩
  simp [render]

/- So does a target that breaks off in its address. -/
theorem not_skips_of_target
    (hWeb : isWebTarget link.target = true)
    {label scheme address : Text}
    (hLabel : ']' ∉ label)
    (hScheme : scheme ∈ StandInUrl.schemes)
    (hFree : ')' ∉ scheme ++ address)
    (hBlank : ∀ c ∈ address, isBlank c = false)
    (hShown :
      ∀ c ∈ link.label.takeWhile (· ≠ ')'), isBlank c = false)
    (u : Text) :
    ¬ webReader.Skips
      ('[' :: label ++ "](".toList ++ (scheme ++ address) ++
        (link.render ++ u)) := by
  rw [webReader_skips_iff]
  intro hNone
  rcases link with ⟨label', target⟩
  let behind := label' ++ ("](".toList ++ target)
  let more := '[' :: behind.takeWhile (· ≠ ')')
  have hMoreFree : ')' ∉ more := by
    have hNot : ')' ∉ behind.takeWhile (· ≠ ')') :=
      Text.not_mem_takeWhile_ne _ _
    simpa [more] using hNot
  have hMoreBlank : ∀ c ∈ more, isBlank c = false := by
    have hMarks : ∀ c ∈ "](".toList, isBlank c = false := by
      decide
    intro c hc
    rcases List.mem_cons.mp hc with rfl | hc
    · decide
    rcases Text.mem_takeWhile_append hc with hc | hc
    · exact hShown c hc
    rcases List.mem_append.mp hc with hc | hc
    · exact hMarks c hc
    · exact not_blank_of_isWebTarget hWeb c hc
  have hTarget : ')' ∉ scheme ++ (address ++ more) := by
    rw [← List.append_assoc, List.mem_append, not_or]
    exact ⟨hFree, hMoreFree⟩
  have hTargetWeb :
      isWebTarget (scheme ++ (address ++ more)) = true := by
    refine isWebTarget_iff.mpr
      ⟨scheme, hScheme, address ++ more, rfl, by simp [more],
        fun c hc => ?_⟩
    rcases List.mem_append.mp hc with hc | hc
    · exact hBlank c hc
    · exact hMoreBlank c hc
  rcases Text.exists_takeWhile_ne_append ')' behind u with
    ⟨w, hBehind⟩
  have hRender :
      render ⟨label', target⟩ ++ u = more ++ ')' :: w := by
    rw [List.cons_append, ← hBehind]
    simp [render, behind]
  refine hNone ⟨label, scheme ++ (address ++ more)⟩
    (isWritable_of_web hLabel hTarget hTargetWeb) hTargetWeb
    ⟨w, ?_⟩
  rw [hRender]
  simp [render]

/-
  Where no opening that a text breaks off is completed by
  the text behind it, the text holds all of the opening that
  starts in it.
-/
theorem exists_append_of_unbroken
    {b scheme x z : Text}
    (hScheme : scheme ∈ StandInUrl.schemes)
    (hOpen :
      ∀ q, ']' :: b ++ q ∈ openings → q ≠ [] → ¬ q <+: z)
    (hTail : b ++ z = '(' :: scheme ++ x) :
    ∃ b', b = '(' :: scheme ++ b' := by
  rcases List.append_eq_append_iff.mp hTail with
    ⟨q, hq, hz⟩ | ⟨b', hb, -⟩
  · by_cases hDone : q = []
    · rw [hDone, List.append_nil] at hq
      exact ⟨[], by rw [hq, List.append_nil]⟩
    · have hOpening : ']' :: b ++ q ∈ openings := by
        rw [List.cons_append, ← hq]
        exact List.mem_map_of_mem hScheme
      exact absurd ⟨_, hz.symm⟩ (hOpen q hOpening hDone)
  · exact ⟨b', hb⟩

/-
  Where a link stands, a text before it in which no link
  starts may be followed by another text: no link starts if
  that text does not complete what is broken off, and has
  the label up to a closing parenthesis.
-/
theorem skips_of_skips_render
    (hWritable : link.IsWritable)
    (hWeb : isWebTarget link.target = true)
    {s z u : Text}
    (hNil : s ≠ [])
    (hSkips : webReader.Skips (s ++ (link.render ++ u)))
    (hOpen :
      ∀ p q, p ++ q ∈ openings → p ≠ [] → q ≠ [] →
        p <:+ s → ¬ q <+: z)
    (hLabel :
      ∀ c ∈ link.label.takeWhile (· ≠ ')'),
        c ∈ z.takeWhile (· ≠ ')')) :
    webReader.Skips (s ++ z) := by
  rw [webReader_skips_iff]
  rintro ⟨label, target⟩ hFound hFoundWeb ⟨w, hEq⟩
  have hParts :
      s ++ z =
        ('[' :: label) ++ ']' :: ('(' :: target ++ ')' :: w) := by
    rw [← hEq]
    simp [render]
  have hFree : ']' ∉ '[' :: label := by
    simpa using hFound.label
  rcases Text.append_mark_cases hFree hParts with
    ⟨b, rfl, hBehind⟩ | ⟨l, hBefore, -⟩
  · rcases isWebTarget_iff.mp hFoundWeb with
      ⟨scheme, hScheme, address, rfl, -, hBlank⟩
    have hAddress : ')' ∉ address :=
      fun h => hFound.target (List.mem_append_right scheme h)
    have hTail :
        b ++ z = '(' :: scheme ++ (address ++ ')' :: w) := by
      rw [← hBehind]
      simp
    have hBroken :
        ∀ q, ']' :: b ++ q ∈ openings → q ≠ [] → ¬ q <+: z :=
      fun q hOpening hDone =>
        hOpen (']' :: b) q hOpening (by simp) hDone
          (List.suffix_append ('[' :: label) (']' :: b))
    -- The text in front holds the whole scheme.
    rcases exists_append_of_unbroken hScheme hBroken hTail with
      ⟨b', rfl⟩
    rw [List.append_assoc, List.append_cancel_left_eq] at hTail
    rcases Text.append_mark_cases hAddress hTail with
      ⟨b'', rfl, -⟩ | ⟨a, rfl, hz⟩
    -- All of the link stands in front.
    · rw [webReader_skips_iff] at hSkips
      refine hSkips ⟨label, scheme ++ address⟩ hFound hFoundWeb ?_
      refine ⟨b'' ++ (link.render ++ u), ?_⟩
      simp [render]
    -- The target goes on into the text behind.
    · rw [List.mem_append, not_or] at hAddress
      rw [hz, Text.takeWhile_ne_append hAddress.2] at hLabel
      have hTarget : ')' ∉ scheme ++ b' := by
        intro h
        apply hFound.target
        rw [← List.append_assoc]
        exact List.mem_append_left a h
      refine not_skips_of_target hWeb hFound.label hScheme
        hTarget
        (fun c hc => hBlank c (List.mem_append_left a hc))
        (fun c hc => hBlank c
          (List.mem_append_right b' (hLabel c hc))) u ?_
      simpa using hSkips
  -- The label goes on to the end of the text in front.
  · rcases List.exists_cons_of_ne_nil hNil with ⟨c, s, rfl⟩
    rw [List.cons_append, List.cons.injEq] at hBefore
    rcases hBefore with ⟨rfl, rfl⟩
    have hLabelFree : ']' ∉ s :=
      fun h => hFound.label (List.mem_append_left l h)
    exact not_skips_of_label hWritable hWeb hLabelFree u hSkips

end Link

------------------------------------------------------------
-- Repair Of Links
------------------------------------------------------------

namespace SourceRepair

variable {repair : SourceRepair}
variable {t r : Text}
variable {os : List (Occurrence Link)}

/- Whether repair keeps every link into the web in a text. -/
def KeepsLinks (repair : SourceRepair) (t : Text) : Prop :=
  ∀ found ∈ Text.seen Link.webReader t,
    repair.repairUrl found.1.target = .keep

/- A target of links into the web that repair keeps. -/
structure KeepsTarget
    (repair : SourceRepair)
    (url : Text) : Prop where
  kept : repair.repairUrl url = .keep
  web : Link.isWebTarget url = true
  closed : ')' ∉ url

instance (repair : SourceRepair) (url : Text) :
    Decidable (repair.KeepsTarget url) :=
  decidable_of_iff
    (repair.repairUrl url = .keep ∧
      Link.isWebTarget url = true ∧ ')' ∉ url)
    ⟨fun h => ⟨h.1, h.2.1, h.2.2⟩,
     fun h => ⟨h.kept, h.web, h.closed⟩⟩

/-
  Whether repair settles on a link: it keeps what it writes,
  and if it removes the link, the label starts none and the
  text before it does not go on in it.
-/
def SettlesLink
    (repair : SourceRepair)
    (o : Occurrence Link) : Prop :=
  (repair.repairUrl o.value.target).Writes repair.KeepsTarget ∧
    (repair.repairUrl o.value.target = .remove →
      '[' ∉ o.value.label ∧ ¬ Link.OpensTarget o.gap)

instance (repair : SourceRepair) (o : Occurrence Link) :
    Decidable (repair.SettlesLink o) :=
  inferInstanceAs (Decidable (_ ∧ (_ → _ ∧ ¬ _)))

theorem repairLinks_eq_collect
    (repair : SourceRepair)
    (t : Text) :
    repair.repairLinks t =
      Text.collect Link.webReader (fun c => [c])
        (fun link _ => repair.repairLink link) t :=
  Text.replace_eq_collected (fun link _ => repair.repairLink link)
    (t.cut Link.webReader)

/- Where all links are kept, nothing is changed. -/
theorem repairLinks_eq_self
    (h : repair.KeepsLinks t) : repair.repairLinks t = t := by
  rw [repairLinks_eq_collect]
  apply Text.collect_eq_self Link.webReader_steady
  intro o ho
  have hRead := (Text.cutsTo_cut Link.webReader_steady t).found ho
  rcases Link.webReader_eq_some_iff.mp hRead with
    ⟨-, -, -, hCovered⟩
  have hMem :
      (o.value, o.covered) ∈ Text.seen Link.webReader t := by
    rw [Text.seen_eq]
    exact List.mem_map_of_mem
      (f := fun o => (o.value, o.covered)) ho
  rw [repairLink, h _ hMem, hCovered]

theorem keepsLinks_of_skips
    (hSkips :
      ∀ s, s <:+ t → s ≠ [] → Link.webReader.Skips s) :
    repair.KeepsLinks t := by
  intro found hFound
  rw [Text.seen_of_skips Link.webReader_steady hSkips] at hFound
  cases hFound

/- What is seen behind a text in which no link starts. -/
theorem keepsLinks_append_of_skips
    {a : Text}
    (hSkips :
      ∀ s, s <:+ a → s ≠ [] → Link.webReader.Skips (s ++ t))
    (h : repair.KeepsLinks t) : repair.KeepsLinks (a ++ t) := by
  have hSeen :
      Text.seen Link.webReader (a ++ t) =
        Text.seen Link.webReader t := by
    have hNone :
        a.flatMap (fun _ => ([] : List (Link × Text))) = [] := by
      simp
    rw [Text.seen,
      Text.collect_append_of_skips Link.webReader_steady hSkips,
      hNone]
    rfl
  rwa [KeepsLinks, hSeen]

/- A link that is kept, in front of others that are. -/
theorem keepsLinks_render_append
    {link : Link}
    (hWritable : link.IsWritable)
    (hWeb : Link.isWebTarget link.target = true)
    (hKept : repair.repairUrl link.target = .keep)
    (h : repair.KeepsLinks t) :
    repair.KeepsLinks (link.render ++ t) := by
  have hRead :
      Link.webReader none (link.render ++ t) =
        some (link, link.render) :=
    Link.webReader_eq_some_iff.mpr
      ⟨hWritable, hWeb, List.prefix_append _ t, rfl⟩
  rw [KeepsLinks, Text.seen,
    Text.collect_of_found Link.webReader_steady hRead
      (Link.render_ne_nil link),
    List.singleton_append, List.forall_mem_cons]
  exact ⟨hKept, h⟩

/- The target of a link may be another one that is kept. -/
theorem keepsLinks_of_retargeted
    {gap u target : Text}
    {link : Link}
    (hWritable : link.IsWritable)
    (hWeb : Link.isWebTarget link.target = true)
    (hGap :
      ∀ s, s <:+ gap → s ≠ [] →
        Link.webReader.Skips (s ++ (link.render ++ u)))
    (hTarget : ')' ∉ target)
    (hTargetWeb : Link.isWebTarget target = true)
    (hKept : repair.repairUrl target = .keep)
    (h : repair.KeepsLinks t) :
    repair.KeepsLinks
      (gap ++ (Link.render ⟨link.label, target⟩ ++ t)) := by
  have hBracket : ∀ w ∈ Link.openings, '[' ∉ w := by
    decide
  apply keepsLinks_append_of_skips
  · intro s hs hNil
    apply Link.skips_of_skips_render hWritable hWeb hNil
      (hGap s hs hNil)
    · rintro p q hMem - hq - ⟨w, hEq⟩
      rcases List.exists_cons_of_ne_nil hq with ⟨c, q, rfl⟩
      cases (List.cons.inj hEq).1
      exact hBracket _ hMem (by simp)
    · intro c hc
      have hMem :
          c ∈ '[' :: (link.label ++ (']' :: '(' :: target ++
            ')' :: t)).takeWhile (· ≠ ')') :=
        List.mem_cons_of_mem '[' (Text.mem_takeWhile_of_mem hc _)
      simpa [Link.render] using hMem
  · exact keepsLinks_render_append
      (Link.isWritable_of_web hWritable.label hTarget hTargetWeb)
      hTargetWeb hKept h

/- Of a link that is removed the label stays. -/
theorem keepsLinks_of_removed
    {gap u : Text}
    {link : Link}
    (hWritable : link.IsWritable)
    (hWeb : Link.isWebTarget link.target = true)
    (hGap :
      ∀ s, s <:+ gap → s ≠ [] →
        Link.webReader.Skips (s ++ (link.render ++ u)))
    (hLabel : '[' ∉ link.label)
    (hOpen : ¬ Link.OpensTarget gap)
    (h : repair.KeepsLinks t) :
    repair.KeepsLinks (gap ++ (link.label ++ t)) := by
  apply keepsLinks_append_of_skips
  · intro s hs hNil
    apply Link.skips_of_skips_render hWritable hWeb hNil
      (hGap s hs hNil)
    · intro p q hMem hp hq hEnd _
      have hPart : p ≠ p ++ q := by
        simpa using hq
      exact hOpen
        ⟨p ++ q, hMem, p,
          (List.mem_inits _ _).mpr (List.prefix_append p q),
          hp, hPart, hEnd.trans hs⟩
    · exact fun c hc => Text.mem_takeWhile_of_mem hc t
  · apply keepsLinks_append_of_skips _ h
    intro s hs hNil
    rcases List.exists_cons_of_ne_nil hNil with ⟨c, s, rfl⟩
    apply Link.webReader_skips_of_ne
    rintro rfl
    exact hLabel (hs.subset List.mem_cons_self)

/- After repair all links into the web are kept. -/
theorem keepsLinks_of_cutsTo
    (hCut : Text.CutsTo Link.webReader t os r)
    (h : ∀ o ∈ os, repair.SettlesLink o) :
    repair.KeepsLinks (repair.repairLinks t) := by
  induction hCut with
  | @rest t hSkips =>
      have hKeeps : repair.KeepsLinks t :=
        keepsLinks_of_skips hSkips
      rwa [repairLinks_eq_self hKeeps]
  | @next gap x u r link os hGap hFound hCovers hRest ih =>
      rw [List.forall_mem_cons] at h
      have hLater := ih h.2
      rcases h.1 with ⟨hSettles, hRemoved⟩
      rcases Link.webReader_eq_some_iff.mp hFound with
        ⟨hWritable, hWeb, -, rfl⟩
      have hText :
          repair.repairLinks (gap ++ (link.render ++ u)) =
            gap ++ (repair.repairLink link ++
              repair.repairLinks u) := by
        simp only [repairLinks_eq_collect]
        rw [Text.collect_gap_append Link.webReader_steady hGap
          hFound hCovers, List.flatMap_singleton']
      dsimp only at hSettles hRemoved
      rw [hText, repairLink]
      cases hVerdict : repair.repairUrl link.target with
      | keep =>
          exact keepsLinks_of_retargeted hWritable hWeb hGap
            hWritable.target hWeb hVerdict hLater
      | remove =>
          rcases hRemoved hVerdict with ⟨hLabel, hOpen⟩
          exact keepsLinks_of_removed hWritable hWeb hGap hLabel
            hOpen hLater
      | replace url =>
          rw [hVerdict] at hSettles
          exact keepsLinks_of_retargeted hWritable hWeb hGap
            hSettles.closed hSettles.web hSettles.kept hLater

theorem keepsLinks_repairLinks
    (h :
      ∀ o ∈ (t.cut Link.webReader).occurrences,
        repair.SettlesLink o) :
    repair.KeepsLinks (repair.repairLinks t) :=
  keepsLinks_of_cutsTo
    (Text.cutsTo_cut Link.webReader_steady t) h

end SourceRepair

end SourceDocs
