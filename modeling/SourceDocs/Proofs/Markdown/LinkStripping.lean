import Mathlib.Data.List.Infix
import SourceDocs.Proofs.Markdown.LinkSyntax
import SourceDocs.Proofs.Markdown.Slugs
import SourceDocs.Proofs.Text.Replacing

/-
  Stripping the links of a text that is put together from
  parts.

  A text that no link can go on from is stripped apart from
  what follows it.

  Key definitions include:
    * `SourceDocs.Link.couldStart`
    * `SourceDocs.Link.leavesOpen`

  Main results:
    * `SourceDocs.Link.strip_append`
    * `SourceDocs.Heading.slug_trim`
-/

------------------------------------------------------------
-- Stripping By Parts
------------------------------------------------------------

namespace SourceDocs

namespace Link

/- Where nothing is read with a label nothing is found. -/
theorem skips_iff
    {t : Text} :
    labelledReader.Skips t ↔
      ∀ link, read? t = some link → link.label = [] := by
  constructor
  · intro hSkips link hRead
    by_contra hLabel
    exact render_ne_nil link
      (hSkips link _
        (labelledReader_eq_some_iff.mpr ⟨hRead, rfl, hLabel⟩))
  · intro hLabels link x hFound
    rcases labelledReader_eq_some_iff.mp hFound with
      ⟨hRead, -, hLabel⟩
    exact absurd (hLabels link hRead) hLabel

/- A text without links is its own rest. -/
theorem strip_of_skips
    {t : Text}
    (hSkips :
      ∀ s, s <:+ t → s ≠ [] → labelledReader.Skips s) :
    strip t = t :=
  Text.replaced_of_skips labelledReader_steady label hSkips

/- The first link of a text is replaced by its label. -/
theorem strip_of_found
    {gap x u : Text}
    {link : Link}
    (hGap :
      ∀ s, s <:+ gap → s ≠ [] →
        labelledReader.Skips (s ++ (x ++ u)))
    (hFound : labelledReader none (x ++ u) = some (link, x)) :
    strip (gap ++ (x ++ u)) = gap ++ (link.label ++ strip u) := by
  have hCovers : x ≠ [] := by
    rcases labelledReader_eq_some_iff.mp hFound with ⟨-, rfl, -⟩
    exact render_ne_nil link
  exact Text.replaced_of_found labelledReader_steady label hGap
    hFound hCovers

/- A front in which no link starts stays. -/
theorem strip_append_of_skips
    {a t : Text}
    (hSkips :
      ∀ s, s <:+ a → s ≠ [] → labelledReader.Skips (s ++ t)) :
    strip (a ++ t) = a ++ strip t :=
  Text.replaced_append_of_skips labelledReader_steady label hSkips

------------------------------------------------------------
-- Links That Go On
------------------------------------------------------------

/- Whether more text could make a link out of a text. -/
def couldStart : Text → Bool
| '[' :: t =>
  match t.dropWhile (· ≠ ']') with
  | [] => true
  | [_] => true
  | _ :: c :: u => c = '(' ∧ ')' ∉ u
| _ => false

/-
  Whether a bracket behind the last link of a text could
  become that of a link if more text follows.
-/
def leavesOpen (t : Text) : Bool :=
  (t.cut labelledReader).rest.tails.any couldStart

/- A label without its end could go on. -/
theorem couldStart_of_label
    {t : Text}
    (hLabel : ']' ∉ t) : couldStart ('[' :: t) = true := by
  rw [couldStart, Text.dropWhile_ne_eq_nil hLabel]

theorem couldStart_of_close
    {t : Text}
    (hLabel : ']' ∉ t) :
    couldStart ('[' :: (t ++ [']'])) = true := by
  have hDrop := Text.dropWhile_ne_append (b := []) hLabel
  rw [couldStart, hDrop]

theorem couldStart_of_target
    {t u : Text}
    (hLabel : ']' ∉ t)
    (hTarget : ')' ∉ u) :
    couldStart ('[' :: (t ++ ']' :: '(' :: u)) = true := by
  have hDrop := Text.dropWhile_ne_append (b := '(' :: u) hLabel
  rw [couldStart, hDrop]
  simpa using hTarget

/- What is in front of a link's end could go on. -/
theorem couldStart_of_front
    {link : Link}
    (hWritable : link.IsWritable)
    {s : Text}
    (hPrefix : s <+: link.render)
    (hNil : s ≠ [])
    (hNe : s ≠ link.render) : couldStart s = true := by
  rcases List.exists_cons_of_ne_nil hNil with ⟨c, s, rfl⟩
  rw [render, List.cons_append, List.cons_prefix_cons] at hPrefix
  rcases hPrefix with ⟨rfl, hTail⟩
  rcases Text.prefix_append_cases hTail with
    hLabel | ⟨s₂, rfl, hRest⟩
  · exact couldStart_of_label fun hMem =>
      hWritable.label (hLabel.subset hMem)
  · rcases s₂ with - | ⟨c, - | ⟨d, u⟩⟩
    · rw [List.append_nil]
      exact couldStart_of_label hWritable.label
    · rcases List.cons_prefix_cons.mp hRest with ⟨rfl, -⟩
      exact couldStart_of_close hWritable.label
    · rw [List.cons_append, List.cons_append,
        List.cons_prefix_cons, List.cons_prefix_cons] at hRest
      rcases hRest with ⟨rfl, rfl, hRest⟩
      rcases List.prefix_concat_iff.mp hRest with rfl | hTarget
      · exact absurd (by simp [render]) hNe
      · exact couldStart_of_target hWritable.label fun hMem =>
          hWritable.target (hTarget.subset hMem)

/-
  A text that holds the end of a label and, behind what may
  be the opening of a target, the end of one, cannot be the
  beginning of a longer link.
-/
theorem couldStart_of_link
    (a b u : Text)
    (c : Char) :
    couldStart (a ++ ']' :: c :: (b ++ ')' :: u)) = false := by
  cases a with
  | nil => simp [couldStart]
  | cons d a =>
      by_cases hd : d = '['
      · subst hd
        rw [List.cons_append, couldStart]
        by_cases hMem : ']' ∈ a
        · rcases List.eq_append_cons_of_mem hMem with
            ⟨p, q, rfl, hp⟩
          rw [List.append_assoc, List.cons_append,
            Text.dropWhile_ne_append hp]
          cases q <;> simp
        · rw [Text.dropWhile_ne_append hMem]
          simp
      · simp [couldStart, hd]

/-
  A link at the front of two texts in a row is in the first
  of them, or that one could be its beginning.
-/
theorem render_prefix_or_couldStart
    {link : Link}
    (hWritable : link.IsWritable)
    {s y : Text}
    (hPrefix : link.render <+: s ++ y)
    (hNil : s ≠ []) :
    link.render <+: s ∨ couldStart s = true := by
  rcases Text.prefix_append_cases hPrefix with
    hIn | ⟨s₂, hEq, -⟩
  · exact Or.inl hIn
  · by_cases hNe : s = link.render
    · exact Or.inl (hNe ▸ List.prefix_rfl)
    · have hFront : s <+: link.render :=
        hEq ▸ List.prefix_append s s₂
      exact Or.inr (couldStart_of_front hWritable hFront hNil hNe)

/- Where nothing starts that could go on nothing is found. -/
theorem skips_append
    {s : Text}
    (hSkips : labelledReader.Skips s)
    (hNil : s ≠ [])
    (hStart : couldStart s = false)
    (y : Text) : labelledReader.Skips (s ++ y) := by
  rw [skips_iff] at hSkips ⊢
  intro link hRead
  rcases read?_eq_some_iff.mp hRead with ⟨hWritable, hPrefix⟩
  rcases render_prefix_or_couldStart hWritable hPrefix hNil with
    hIn | hOpen
  · exact hSkips link (read?_eq_some_iff.mpr ⟨hWritable, hIn⟩)
  · exact absurd hOpen (by simp [hStart])

------------------------------------------------------------
-- Parts Of A Text
------------------------------------------------------------

/-
  The links of a text are stripped apart from those of the
  text that follows if none starts behind the last of them
  and goes on.
-/
theorem strip_append_of_rest
    {x y : Text}
    (hRest :
      ∀ s, s <:+ (x.cut labelledReader).rest → s ≠ [] →
        labelledReader.Skips (s ++ y)) :
    strip (x ++ y) = strip x ++ strip y := by
  have hCut := Text.cutsTo_cut labelledReader_steady x
  generalize (x.cut labelledReader).occurrences = os at hCut
  generalize (x.cut labelledReader).rest = r at hCut hRest
  induction hCut with
  | rest hSkips =>
      rw [strip_of_skips hSkips]
      exact strip_append_of_skips hRest
  | @next gap x u r link os hGap hFound hCovers hNext ih =>
      rcases labelledReader_eq_some_iff.mp hFound with
        ⟨hRead, rfl, hLabel⟩
      rcases read?_eq_some_iff.mp hRead with ⟨hWritable, -⟩
      have hFoundLonger :
          labelledReader none (link.render ++ (u ++ y)) =
            some (link, link.render) :=
        labelledReader_eq_some_iff.mpr
          ⟨read?_eq_some_iff.mpr
            ⟨hWritable, List.prefix_append _ _⟩, rfl, hLabel⟩
      have hGapLonger :
          ∀ s, s <:+ gap → s ≠ [] →
            labelledReader.Skips
              (s ++ (link.render ++ (u ++ y))) := by
        intro s hs hne
        have hSkips :=
          skips_append (hGap s hs hne) (by simp [hne]) ?_ y
        · simpa only [List.append_assoc] using hSkips
        · have hText :
              s ++ (link.render ++ u) =
                (s ++ '[' :: link.label) ++ ']' :: '(' ::
                  (link.target ++ ')' :: u) := by
            simp [render]
          rw [hText, couldStart_of_link]
      rw [List.append_assoc, List.append_assoc,
        strip_of_found hGapLonger hFoundLonger,
        strip_of_found hGap hFound, ih hRest]
      simp only [List.append_assoc]

/- Behind the last link of a text there is no other. -/
theorem skips_of_suffix_rest
    {s x : Text}
    (hs : s <:+ (x.cut labelledReader).rest)
    (hne : s ≠ []) : labelledReader.Skips s := by
  have hCut := Text.cutsTo_cut labelledReader_steady x
  generalize (x.cut labelledReader).occurrences = os at hCut
  generalize (x.cut labelledReader).rest = r at hCut hs
  induction hCut with
  | rest hSkips => exact hSkips s hs hne
  | next _ _ _ _ ih => exact ih hs

/- A text that leaves nothing open is stripped by itself. -/
theorem strip_append
    {x : Text}
    (hClosed : leavesOpen x = false)
    (y : Text) : strip (x ++ y) = strip x ++ strip y := by
  refine strip_append_of_rest fun s hs hne => ?_
  have hStart :=
    List.any_eq_false.mp hClosed s ((List.mem_tails s _).mpr hs)
  exact skips_append (skips_of_suffix_rest hs hne) hne
    (by simpa using hStart) y

/- A text without the end of a target holds no link. -/
theorem strip_of_not_mem_close
    {t : Text}
    (hClose : ')' ∉ t) : strip t = t := by
  refine strip_of_skips fun s hs _ => skips_iff.mpr ?_
  intro link hRead
  rcases read?_eq_some_iff.mp hRead with ⟨-, hPrefix⟩
  have hMem : ')' ∈ link.render := by simp [render]
  exact absurd (hs.subset (hPrefix.subset hMem)) hClose

/- Nor does it end one that was begun before it. -/
theorem strip_append_of_not_mem_close
    {b : Text}
    (hClose : ')' ∉ b)
    (t : Text) : strip (t ++ b) = strip t ++ b := by
  rw [strip_append_of_rest, strip_of_not_mem_close hClose]
  intro s hs hne
  have hSkips := skips_of_suffix_rest hs hne
  rw [skips_iff] at hSkips ⊢
  intro link hRead
  rcases read?_eq_some_iff.mp hRead with ⟨hWritable, hPrefix⟩
  rcases Text.prefix_append_cases hPrefix with
    hIn | ⟨s', hEq, hs'⟩
  · exact hSkips link (read?_eq_some_iff.mpr ⟨hWritable, hIn⟩)
  · rcases List.eq_nil_or_concat s' with rfl | ⟨m, c, rfl⟩
    · rw [List.append_nil] at hEq
      exact hSkips link (read?_eq_some_iff.mpr
        ⟨hWritable, hEq ▸ List.prefix_rfl⟩)
    · have hEnd :
          (s ++ m) ++ [c] =
            ('[' :: (link.label ++ ']' :: '(' :: link.target)) ++
              [')'] := by
        simpa [render] using hEq
      rcases List.append_inj' hEnd rfl with ⟨-, hLast⟩
      rcases (List.cons.inj hLast).1 with rfl
      exact absurd (hs'.subset (by simp)) hClose

/- A front without brackets begins no link. -/
theorem strip_append_of_not_mem_open
    {a : Text}
    (hOpen : '[' ∉ a)
    (t : Text) : strip (a ++ t) = a ++ strip t := by
  refine strip_append_of_skips fun s hs hne => skips_iff.mpr ?_
  intro link hRead
  rcases List.exists_cons_of_ne_nil hne with ⟨c, s, rfl⟩
  rcases read?_eq_some_iff.mp hRead with ⟨-, hPrefix⟩
  rcases List.cons_prefix_cons.mp hPrefix with ⟨hHead, -⟩
  rw [← hHead] at hs
  exact absurd (hs.subset List.mem_cons_self) hOpen

theorem strip_of_not_mem_label_end
    {t : Text}
    (hLabel : ']' ∉ t) : strip t = t := by
  refine strip_of_skips fun s hs _ => skips_iff.mpr ?_
  intro link hRead
  rcases read?_eq_some_iff.mp hRead with ⟨-, hPrefix⟩
  have hMem : ']' ∈ link.render := by simp [render]
  exact absurd (hs.subset (hPrefix.subset hMem)) hLabel

------------------------------------------------------------
-- Links By Themselves
------------------------------------------------------------

/- A link that shows something is cut into itself. -/
theorem cut_render
    {link : Link}
    (hWritable : link.IsWritable)
    (hLabel : link.label ≠ []) :
    link.render.cut labelledReader =
      ⟨[⟨[], link, link.render, []⟩], []⟩ := by
  have hFound :
      labelledReader none (link.render ++ []) =
        some (link, link.render) :=
    labelledReader_eq_some_iff.mpr
      ⟨read?_eq_some_iff.mpr ⟨hWritable, List.prefix_append _ _⟩,
        rfl, hLabel⟩
  have hNone : ∀ s, s <:+ [] → s ≠ [] → labelledReader.Skips s :=
    fun s hs hne => absurd (List.suffix_nil.mp hs) hne
  have hCut :=
    Text.CutsTo.next
      (fun s hs hne => absurd (List.suffix_nil.mp hs) hne)
      hFound (render_ne_nil link) (.rest hNone)
  rw [List.nil_append, List.append_nil] at hCut
  exact hCut.cut_eq labelledReader_steady

theorem strip_render
    {link : Link}
    (hWritable : link.IsWritable)
    (hLabel : link.label ≠ []) :
    strip link.render = link.label := by
  rw [strip, cut_render hWritable hLabel]
  simp [Cut.replace]

theorem leavesOpen_render
    {link : Link}
    (hWritable : link.IsWritable)
    (hLabel : link.label ≠ []) :
    leavesOpen link.render = false := by
  rw [leavesOpen, cut_render hWritable hLabel]
  rfl

/- What is written with an empty target is no link. -/
theorem strip_render_nil
    {label : Text}
    (hLabel : ']' ∉ label) :
    strip (render ⟨label, []⟩) = render ⟨label, []⟩ := by
  refine strip_of_skips fun s hs _ => skips_iff.mpr ?_
  intro link hRead
  rcases read?_eq_some_iff.mp hRead with ⟨hWritable, r, rfl⟩
  rcases hs with ⟨p, hp⟩
  have hEq :
      ('[' :: label) ++ ']' :: ['(', ')'] =
        (p ++ '[' :: link.label) ++
          ']' :: '(' :: (link.target ++ ')' :: r) := by
    simpa [render] using hp.symm
  have hFront : ']' ∉ '[' :: label := by
    simpa using hLabel
  rcases (List.append_cons_inj_of_notMem hFront (by decide)).mp hEq
    with ⟨-, -, hBehind⟩
  rcases List.exists_cons_of_ne_nil hWritable.ne_nil with
    ⟨c, cs, hTarget⟩
  rw [hTarget, List.cons_append, List.cons.injEq,
    List.cons.injEq] at hBehind
  refine absurd ?_ hWritable.target
  rw [hTarget, hBehind.2.1]
  exact List.mem_cons_self

end Link

------------------------------------------------------------
-- Slugs Of Headings
------------------------------------------------------------

namespace Heading

/- The slug of a line's heading is that of its links' labels. -/
theorem slug_trim (t : Text) :
    slug (Text.trim t) = slugOf (Link.strip t) := by
  rcases Text.exists_trim_eq t with ⟨a, b, hText, ha, hb⟩
  have hOpen : '[' ∉ a := fun hMem =>
    absurd (ha _ hMem) (by decide)
  have hClose : ')' ∉ b := fun hMem =>
    absurd (hb _ hMem) (by decide)
  conv =>
    rhs
    rw [hText, List.append_assoc,
      Link.strip_append_of_not_mem_open hOpen,
      Link.strip_append_of_not_mem_close hClose]
  rw [slug_eq, slugOf_trim, slugOf_append_of_blanks ha,
    slugOf_append_blanks hb]

end Heading

end SourceDocs
