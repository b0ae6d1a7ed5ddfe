import SourceDocs.Proofs.LinkRepair.Edits
import SourceDocs.Proofs.LinkRepair.Targets

/-
  A text that a pass does not change has no placeholder left
  to write out and no link left to repair.

  A pass could change a text twice and come back to it. The
  braces that open placeholders and the parentheses that
  close links tell that it does not: neither half of a pass
  ever gains weight, and writing out a placeholder or
  demoting a link loses some.

  Key definitions include:
    * `SourceDocs.markWeight`

  Main results:
    * `SourceDocs.LinkRepair.outside_placeholders_eq_nil`
    * `SourceDocs.LinkRepair.writeLink_eq_covered`
-/

------------------------------------------------------------
-- Weights Of Marks
------------------------------------------------------------

namespace SourceDocs

/- A brace weighs more than the link it may become. -/
def markWeight (c : Char) : Nat :=
  if c = '\x7b' then 2 else if c = ')' then 1 else 0

abbrev Text.marks (t : Text) : Nat :=
  Fence.weigh markWeight t

theorem marks_eq_zero
    {t : Text}
    (hBrace : '\x7b' ∉ t)
    (hClose : ')' ∉ t) : Text.marks t = 0 := by
  induction t with
  | nil => rfl
  | cons c t ih =>
      rw [List.mem_cons, not_or] at hBrace hClose
      rw [Text.marks, Fence.weigh_cons, markWeight,
        if_neg (Ne.symm hBrace.1), if_neg (Ne.symm hClose.1)]
      exact (Nat.zero_add _).trans (ih hBrace.2 hClose.2)

/- A link weighs what its parts weigh and its end. -/
theorem marks_render (link : Link) :
    Text.marks link.render =
      Text.marks link.label + Text.marks link.target + 1 := by
  simp [Text.marks, Link.render, markWeight]
  omega

theorem marks_name
    {name : Text}
    (hName : ∀ c ∈ name, Placeholder.IsNameChar c) :
    Text.marks name = 0 := by
  have hNot :
      ¬ Placeholder.IsNameChar '\x7b' ∧
        ¬ Placeholder.IsNameChar ')' := by
    constructor <;> rintro (h | h) <;> revert h <;> decide
  exact marks_eq_zero (fun hMem => hNot.1 (hName _ hMem))
    fun hMem => hNot.2 (hName _ hMem)

/- A placeholder weighs its brace at least. -/
theorem two_le_marks_render (p : Placeholder) :
    2 ≤ Text.marks p.render := by
  simp [Text.marks, Placeholder.render, Placeholder.opening,
    markWeight]

namespace LinkRepair

variable {corpus : Corpus}
variable {sources : Option SourceRepair}
variable {current t : Text}

/- No target that is written weighs anything. -/
theorem marks_of_reaches
    (hBrace : ∀ path ∈ corpus.paths, '\x7b' ∉ path)
    (hClose : ∀ path ∈ corpus.paths, ')' ∉ path)
    {target : Text}
    (hReaches : corpus.Reaches current target) :
    Text.marks target = 0 :=
  marks_eq_zero
    (hReaches.not_mem (by decide) (by decide) hBrace)
    (hReaches.not_mem (by decide) (by decide) hClose)

------------------------------------------------------------
-- Weights Of What Is Written
------------------------------------------------------------

section Weights

variable (sources) (current)
variable (hBrace : ∀ path ∈ corpus.paths, '\x7b' ∉ path)
variable (hClose : ∀ path ∈ corpus.paths, ')' ∉ path)

include hBrace hClose

/- Writing out a placeholder loses weight. -/
theorem marks_writePlaceholder_lt
    {o : Occurrence Placeholder}
    (ho : o ∈ (t.cut Placeholder.reader).occurrences) :
    Text.marks
        ((ofCorpus corpus sources).writePlaceholder current
          o.value) <
      Text.marks o.covered := by
  rcases Placeholder.covered_of_mem_cut ho with ⟨hName, hCovered⟩
  have hHeavy := two_le_marks_render o.value
  rw [hCovered]
  rcases writePlaceholder_cases corpus sources current o.value
    with hEq | ⟨target, hReaches, hEq⟩
  · rw [hEq, marks_name hName]
    omega
  · rw [hEq, marks_render, marks_name hName,
      marks_of_reaches hBrace hClose hReaches]
    omega

/- Writing a link anew gains none; demoting it loses some. -/
theorem marks_writeLink_le
    {o : Occurrence Link}
    (ho : o ∈ (t.cut Link.reader).occurrences) :
    let written :=
      (ofCorpus corpus sources).writeLink current o.value
    Text.marks written ≤ Text.marks o.covered ∧
      (written = o.value.label →
        Text.marks written < Text.marks o.covered) := by
  intro written
  rcases Link.covered_of_mem_cut ho with ⟨-, hCovered⟩
  have hParts := marks_render o.value
  have hLabel :
      written = o.value.label →
        Text.marks written < Text.marks o.covered := by
    intro hEq
    rw [hEq, hCovered]
    omega
  refine ⟨?_, hLabel⟩
  rcases writeLink_cases corpus sources current o.value with
    hEq | hEq | ⟨target, hReaches, hEq⟩
  · exact Nat.le_of_lt (hLabel hEq)
  · exact Nat.le_of_eq (by rw [hCovered, ← hEq])
  · rw [hCovered]
    simp only [written]
    rw [hEq, marks_render,
      marks_of_reaches hBrace hClose hReaches]
    dsimp only
    omega

/-
  Writing out placeholders keeps the weight of no text but
  one without any.
-/
theorem marks_repairPlaceholders (t : Text) :
    let next :=
      ((ofCorpus corpus sources).repairPlaceholders current t).1
    Text.marks next ≤ Text.marks t ∧
      (Text.marks t ≤ Text.marks next →
        Fence.outside Placeholder.reader t = []) := by
  intro next
  have hLess :
      ∀ o ∈ Fence.outside Placeholder.reader t,
        Text.marks
            ((ofCorpus corpus sources).writePlaceholder current
              o.value) <
          Text.marks o.covered := fun o ho =>
    marks_writePlaceholder_lt sources current hBrace hClose
      (List.mem_of_mem_filter ho)
  rcases Fence.weigh_replaceOutside Placeholder.reader_steady
      Placeholder.reader_frames markWeight
      fun o ho => Nat.le_of_lt (hLess o ho) with ⟨hLe, hSame⟩
  refine ⟨hLe, fun hGe => ?_⟩
  rw [List.eq_nil_iff_forall_not_mem]
  intro o ho
  have hEq := hSame hGe o ho
  exact absurd hEq (Nat.ne_of_lt (hLess o ho))

/- Writing links anew keeps it only if it demotes none. -/
theorem marks_repairLinks (t : Text) :
    let next := ((ofCorpus corpus sources).repairLinks current t).1
    Text.marks next ≤ Text.marks t ∧
      (Text.marks t ≤ Text.marks next →
        ∀ o ∈ Fence.outside Link.reader t,
          (ofCorpus corpus sources).writeLink current o.value ≠
            o.value.label) := by
  intro next
  have hWeights :
      ∀ o ∈ Fence.outside Link.reader t, _ := fun o ho =>
    marks_writeLink_le sources current hBrace hClose
      (List.mem_of_mem_filter ho)
  rcases Fence.weigh_replaceOutside Link.reader_steady
      Link.reader_frames markWeight
      fun o ho => (hWeights o ho).1 with ⟨hLe, hSame⟩
  refine ⟨hLe, fun hGe o ho hLabel => ?_⟩
  have hEq := hSame hGe o ho
  exact absurd hEq (Nat.ne_of_lt ((hWeights o ho).2 hLabel))

end Weights

------------------------------------------------------------
-- Texts That A Pass Keeps
------------------------------------------------------------

/- A text that a pass keeps is settled at once. -/
theorem settle_eq_self
    {repairOnce : Text → Text}
    {t : Text}
    (hKept : repairOnce t = t)
    (n : Nat) : settle repairOnce n t = t := by
  cases n with
  | zero => rfl
  | succ n => simp [settle, hKept]

/- Without placeholders there is none to write out. -/
theorem repairPlaceholders_eq_self
    (repair : LinkRepair)
    (current : Text)
    (hNone : Fence.outside Placeholder.reader t = []) :
    (repair.repairPlaceholders current t).1 = t :=
  Fence.replaceOutside_eq_self Placeholder.reader_steady
    Placeholder.reader_frames (by simp [hNone])

/- A link outside of code is there as it can be written. -/
theorem covered_of_mem_outside
    {o : Occurrence Link}
    (ho : o ∈ Fence.outside Link.reader t) :
    o.value.IsWritable ∧ o.covered = o.value.render :=
  Link.covered_of_mem_cut (List.mem_of_mem_filter ho)

/- What a link is written as at its place is the same link. -/
theorem target_eq_of_append
    {label target target' a b : Text}
    (hTarget : ')' ∉ target)
    (hTarget' : ')' ∉ target')
    (hEq :
      Link.render ⟨label, target⟩ ++ a =
        Link.render ⟨label, target'⟩ ++ b) :
    target = target' := by
  have hBehind : target ++ ')' :: a = target' ++ ')' :: b := by
    simpa [Link.render] using hEq
  exact (Text.append_mark_inj hTarget hTarget' hBehind).1

section Settled

variable (hBrace : ∀ path ∈ corpus.paths, '\x7b' ∉ path)
variable (hClose : ∀ path ∈ corpus.paths, ')' ∉ path)
variable
  (hSources : (ofCorpus corpus sources).repairSources t = t)
variable (hPass : (ofCorpus corpus sources).pass current t = t)

include hBrace hClose hSources hPass

/- A text that a pass keeps has no placeholders. -/
theorem outside_placeholders_eq_nil :
    Fence.outside Placeholder.reader t = [] := by
  rcases marks_repairPlaceholders sources current hBrace hClose t
    with ⟨-, hNone⟩
  rcases marks_repairLinks sources current hBrace hClose
      ((ofCorpus corpus sources).repairPlaceholders current t).1
    with ⟨hLinks, -⟩
  rw [pass, hSources] at hPass
  rw [hPass] at hLinks
  exact hNone hLinks

/- So its links alone are looked at, and they are kept. -/
theorem repairLinks_eq_self :
    ((ofCorpus corpus sources).repairLinks current t).1 = t := by
  have hNone :=
    outside_placeholders_eq_nil hBrace hClose hSources hPass
  rw [pass, hSources, repairPlaceholders_eq_self _ _ hNone]
    at hPass
  exact hPass

/- Each link of a text that a pass keeps is written as is. -/
theorem writeLink_eq_covered :
    ∀ o ∈ Fence.outside Link.reader t,
      (ofCorpus corpus sources).writeLink current o.value =
        o.covered := by
  have hLinks :=
    repairLinks_eq_self hBrace hClose hSources hPass
  have hLabels :=
    (marks_repairLinks sources current hBrace hClose t).2
      (Nat.le_of_eq (congrArg Text.marks hLinks.symm))
  refine Fence.outside_kept_of_replaceOutside_eq
    Link.reader_steady Link.reader_frames hLinks ?_
  intro o ho a b hEq
  rcases covered_of_mem_outside ho with ⟨hWritable, hCovered⟩
  rcases writeLink_cases corpus sources current o.value with
    hLabel | hKept | ⟨target, hReaches, hSent⟩
  · exact absurd hLabel (hLabels o ho)
  · rw [hKept, hCovered]
  · rw [hSent, hCovered] at hEq ⊢
    have hTarget := target_eq_of_append
      (hReaches.not_mem (by decide) (by decide) hClose)
      hWritable.target hEq
    rw [hTarget]

end Settled

------------------------------------------------------------
-- Links That Are Kept
------------------------------------------------------------

theorem label_ne_render (link : Link) :
    link.label ≠ link.render := by
  intro hEq
  have hMarks := congrArg List.length hEq
  simp [Link.render] at hMarks
  omega

/-
  A link that names a document and is written as it is was
  sent where it leads already.
-/
theorem resolveLink_eq_redirect
    {link : Link}
    (hTarget : isDocumentTarget (Text.trim link.target) = true)
    (hWritable : link.IsWritable)
    (hClose : ∀ path ∈ corpus.paths, ')' ∉ path)
    (hKept :
      (ofCorpus corpus sources).writeLink current link =
        link.render) :
    resolveLink corpus (Inventory.ofCorpus corpus) current link =
      .redirect link.target := by
  rw [writeLink] at hKept
  simp only [ofCorpus] at hKept
  cases hResolve :
      resolveLink corpus (Inventory.ofCorpus corpus) current link with
  | demote =>
      rw [hResolve] at hKept
      exact absurd hKept (label_ne_render link)
  | keep =>
      exact absurd hResolve (resolveLink_ne_keep hTarget)
  | redirect target =>
      rw [hResolve] at hKept
      have hReaches := reaches_of_resolveLink hResolve
      have hEq := target_eq_of_append
        (hReaches.not_mem (by decide) (by decide) hClose)
        hWritable.target (congrArg (· ++ []) hKept)
      rw [hEq]

end LinkRepair

end SourceDocs
