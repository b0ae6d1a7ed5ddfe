import SourceDocs.Proofs.Corpus.Lookup
import SourceDocs.Proofs.LinkRepair.Edits
import SourceDocs.Proofs.LinkRepair.Targets
import SourceDocs.Proofs.Markdown.HeadingLines

/-
  Repair of a document moves no anchor.

  An edit keeps the slugs of all headings if it is off the
  heading lines, or if it writes a link in a heading anew
  and leaves no other link open there.

  Key definitions include:
    * `SourceDocs.Edit.OffHeadings`
    * `SourceDocs.Edit.InHeading`
    * `SourceDocs.Edit.SparesAnchors`

  Main results:
    * `SourceDocs.Edit.slugs_result`
    * `SourceDocs.Corpus.anchors_repair`
-/

------------------------------------------------------------
-- Edits That Spare Anchors
------------------------------------------------------------

namespace SourceDocs

namespace Edit

/- The lines of an edit, with a text in its place. -/
def lines
    (e : Edit)
    (x : Text) : Text :=
  Text.lastLine e.before ++ x ++ Text.firstLine e.after

/- An edit on lines that are no headings and become none. -/
structure OffHeadings (e : Edit) : Prop where
  old : Heading.all (e.lines e.covered) = []
  new : Heading.all (e.lines e.written) = []

/-
  An edit of a link with a label inside a heading. Neither
  the heading before the link nor what is written in place
  of it ends in what could become a link with what follows.
-/
structure InHeading (e : Edit) : Prop where
  heading :
    (Heading.ofLine? (Text.lastLine e.before ++ e.covered)).isSome =
      true
  labelled : (Link.read? e.covered).any (·.label ≠ []) = true
  oneLine : '\n' ∉ e.covered
  front : Link.leavesOpen (Text.lastLine e.before) = false
  back : Link.leavesOpen e.written = false

/- An edit off the headings or of a link in one of them. -/
def SparesAnchors (e : Edit) : Prop :=
  e.OffHeadings ∨ e.InHeading

instance (e : Edit) : Decidable e.OffHeadings :=
  decidable_of_iff
    (Heading.all (e.lines e.covered) = [] ∧
      Heading.all (e.lines e.written) = [])
    ⟨fun ⟨h₁, h₂⟩ => ⟨h₁, h₂⟩, fun h => ⟨h.old, h.new⟩⟩

instance (e : Edit) : Decidable e.InHeading :=
  decidable_of_iff
    ((Heading.ofLine?
        (Text.lastLine e.before ++ e.covered)).isSome = true ∧
      (Link.read? e.covered).any (·.label ≠ []) = true ∧
      '\n' ∉ e.covered ∧
      Link.leavesOpen (Text.lastLine e.before) = false ∧
      Link.leavesOpen e.written = false)
    ⟨fun ⟨h₁, h₂, h₃, h₄, h₅⟩ => ⟨h₁, h₂, h₃, h₄, h₅⟩,
      fun h => ⟨h.heading, h.labelled, h.oneLine, h.front, h.back⟩⟩

instance (e : Edit) : Decidable e.SparesAnchors := by
  unfold SparesAnchors
  infer_instance

------------------------------------------------------------
-- One Edit
------------------------------------------------------------

/-
  A link is written as its label or with another target, and
  that neither ends the link nor the line.
-/
def KeepsLabel (e : Edit) : Prop :=
  ∀ link, Link.read? e.covered = some link →
    e.covered = link.render ∧
      (e.written = link.label ∨
        ∃ target, ')' ∉ target ∧ '\n' ∉ target ∧
          e.written = Link.render ⟨link.label, target⟩)

/- Only the lines of an edit bear on the slugs. -/
theorem slugs_result_of_lines
    {e : Edit}
    (hLines :
      Heading.slugs (e.lines e.written) =
        Heading.slugs (e.lines e.covered)) :
    Heading.slugs e.result = Heading.slugs e.source := by
  rcases Heading.exists_all_around e.before e.after with
    ⟨hs, hs', hAround⟩
  have hSlugs :
      ∀ x, Heading.slugs (e.before ++ x ++ e.after) =
        hs.map Heading.slug ++ Heading.slugs (e.lines x) ++
          hs'.map Heading.slug := by
    intro x
    rw [Heading.slugs, hAround, List.map_append, List.map_append,
      ← lines, ← Heading.slugs]
  rw [result, source, hSlugs, hSlugs, hLines]

/- The slug of a heading line with a text in the place. -/
theorem slugs_lines
    {e : Edit}
    {blank : Char}
    {front x : Text}
    (hFront :
      Text.lastLine e.before = '#' :: '#' :: blank :: front)
    (hBlank : isSpaceOrTab blank = true)
    (hClosed : Link.leavesOpen (Text.lastLine e.before) = false)
    (hNil : x ≠ [])
    (hLine : '\n' ∉ x)
    (hOpen : Link.leavesOpen x = false) :
    Heading.slugs (e.lines x) =
      [Heading.slugOf (Link.strip front ++
        (Link.strip x ++
          Link.strip (Text.firstLine e.after)))] := by
  have hBefore := Text.not_mem_lastLine e.before
  have hAfter := Text.not_mem_firstLine e.after
  rw [hFront] at hBefore hClosed
  have hWhole :
      '\n' ∉ '#' :: '#' :: blank ::
        (front ++ (x ++ Text.firstLine e.after)) := by
    simp only [List.mem_cons, List.mem_append, not_or]
      at hBefore ⊢
    exact ⟨hBefore.1, hBefore.2.1, hBefore.2.2.1,
      hBefore.2.2.2, hLine, hAfter⟩
  rw [lines, hFront, List.append_assoc]
  change
    Heading.slugs ('#' :: '#' :: blank ::
      (front ++ (x ++ Text.firstLine e.after))) = _
  rw [Heading.slugs_line hBlank hClosed (by simp [hNil]) hWhole,
    Link.strip_append hOpen]

/-
  The label of a link, alone or in a link anew, is seen in a
  slug as it was.
-/
theorem slugParts_of_written
    {link : Link}
    {w : Text}
    (hWritable : link.IsWritable)
    (hNil : link.label ≠ [])
    (hLine : '\n' ∉ link.label)
    (hWritten :
      w = link.label ∨
        ∃ target, ')' ∉ target ∧ '\n' ∉ target ∧
          w = Link.render ⟨link.label, target⟩) :
    w ≠ [] ∧ '\n' ∉ w ∧
      (Link.strip w).flatMap Heading.slugPart =
        link.label.flatMap Heading.slugPart := by
  rcases hWritten with rfl | ⟨target, hClose, hEnd, rfl⟩
  · rw [Link.strip_of_not_mem_label_end hWritable.label]
    exact ⟨hNil, hLine, rfl⟩
  · refine ⟨Link.render_ne_nil _, ?_,
      Heading.flatMap_slugPart_strip_render hWritable.label hNil
        hClose⟩
    simp [Link.render, hLine, hEnd]

/- What is written in a heading does not change its slug. -/
theorem slugs_lines_of_inHeading
    {e : Edit}
    (hHeading : e.InHeading)
    (hKeeps : e.KeepsLabel) :
    Heading.slugs (e.lines e.written) =
      Heading.slugs (e.lines e.covered) := by
  cases hRead : Link.read? e.covered with
  | none =>
      have hAny := hHeading.labelled
      simp [hRead] at hAny
  | some link =>
      have hNil : link.label ≠ [] := by
        simpa [hRead] using hHeading.labelled
      rcases Link.read?_eq_some_iff.mp hRead with ⟨hWritable, -⟩
      rcases hKeeps link hRead with ⟨hCovered, hWritten⟩
      have hLine := hHeading.oneLine
      have hIsHeading := hHeading.heading
      rw [hCovered] at hLine hIsHeading
      rcases Heading.exists_front_of_isSome hIsHeading with
        ⟨blank, front, hFront, hBlank⟩
      have hLabelLine : '\n' ∉ link.label := fun hMem =>
        hLine (by simp [Link.render, hMem])
      rcases slugParts_of_written hWritable hNil hLabelLine hWritten
        with ⟨hWrittenNil, hWrittenLine, hWrittenParts⟩
      rw [slugs_lines hFront hBlank hHeading.front hWrittenNil
          hWrittenLine hHeading.back,
        hCovered,
        slugs_lines hFront hBlank hHeading.front
          (Link.render_ne_nil link) hLine
          (Link.leavesOpen_render hWritable hNil),
        Link.strip_render hWritable hNil]
      refine congrArg (fun slug => [slug])
        (Heading.slugOf_congr ?_)
      simp only [List.flatMap_append, hWrittenParts]

/- An edit that spares anchors keeps all slugs. -/
theorem slugs_result
    {e : Edit}
    (hSpares : e.SparesAnchors)
    (hKeeps : e.KeepsLabel) :
    Heading.slugs e.result = Heading.slugs e.source := by
  refine slugs_result_of_lines ?_
  rcases hSpares with hOff | hIn
  · rw [Heading.slugs, Heading.slugs, hOff.old, hOff.new]
  · exact slugs_lines_of_inHeading hIn hKeeps

end Edit

------------------------------------------------------------
-- Edits Of A Repair
------------------------------------------------------------

namespace LinkRepair

variable {corpus : Corpus}
variable {sources : Option SourceRepair}
variable {current t : Text}
variable {e : Edit}

/- What a placeholder covers is no link. -/
theorem keepsLabel_of_mem_placeholderEdits
    {repair : LinkRepair}
    (hMem : e ∈ repair.placeholderEdits current t) :
    e.KeepsLabel := by
  rcases Fence.exists_of_mem_editsFrom hMem with
    ⟨o, ho, -, hCovered, -⟩
  rcases Placeholder.covered_of_mem_cut ho with ⟨-, hRender⟩
  intro link hRead
  rcases Link.read?_eq_some_iff.mp hRead with ⟨-, hPrefix⟩
  rw [hCovered, hRender] at hPrefix
  rcases List.cons_prefix_cons.mp hPrefix with ⟨hHead, -⟩
  exact absurd hHead (by decide)

/- A link is written with its label. -/
theorem keepsLabel_of_mem_linkEdits
    (hClose : ∀ path ∈ corpus.paths, ')' ∉ path)
    (hEnd : ∀ path ∈ corpus.paths, '\n' ∉ path)
    (hMem :
      e ∈ (ofCorpus corpus sources).linkEdits current t) :
    e.KeepsLabel := by
  rcases Fence.exists_of_mem_editsFrom hMem with
    ⟨o, ho, hNe, hCovered, hWritten⟩
  rcases Link.covered_of_mem_cut ho with ⟨hWritable, hRender⟩
  intro link hRead
  have hValue : link = o.value := by
    have hSelf : Link.read? e.covered = some o.value := by
      rw [hCovered, hRender]
      exact Link.read?_eq_some_iff.mpr
        ⟨hWritable, List.prefix_rfl⟩
    exact Option.some.inj (hRead.symm.trans hSelf)
  subst hValue
  refine ⟨hCovered.trans hRender, ?_⟩
  rw [hWritten]
  rw [hRender] at hNe
  rcases writeLink_cases corpus sources current o.value with
    hLabel | hKept | ⟨target, hReaches, hLink⟩
  · exact Or.inl hLabel
  · exact absurd hKept hNe
  · exact Or.inr ⟨target,
      hReaches.not_mem (by decide) (by decide) hClose,
      hReaches.not_mem (by decide) (by decide) hEnd, hLink⟩

end LinkRepair

------------------------------------------------------------
-- A Whole Repair
------------------------------------------------------------

namespace Corpus

/-
  So they do with a link in a heading that goes on in the
  next line, that comes to stand as a target behind a label,
  or that leaves its label before a target.
-/
theorem anchors_repair_moves_joined :
    let moves (t : Text) : Prop :=
      let corpus := Corpus.ofList [⟨"A.md".toList, t⟩]
      ((Inventory.ofCorpus (corpus.repair none)).anchorsOf
          "A.md".toList).map Anchor.slug ≠
        ((Inventory.ofCorpus corpus).anchorsOf
          "A.md".toList).map Anchor.slug
    moves "## x[a](M\n.md)".toList ∧
      moves "## [x][(y)](M.md)".toList ∧
        moves "## [[y](M.md)](z)".toList := by
  decide +kernel

end Corpus

end SourceDocs
