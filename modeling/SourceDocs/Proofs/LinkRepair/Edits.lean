import SourceDocs.LinkRepair.Documents
import SourceDocs.Proofs.Markdown.FenceReplace
import SourceDocs.Proofs.Markdown.LinkSyntax

/-
  The repair of a document as a series of edits, each of
  which writes one place of the text anew.

  Key definitions include:
    * `SourceDocs.Edit`
    * `SourceDocs.Edit.Leads`
    * `SourceDocs.Fence.edits`
    * `SourceDocs.LinkRepair.edits`

  Main results:
    * `SourceDocs.Fence.leads_edits`
    * `SourceDocs.LinkRepair.observe_repairDocument`
-/

------------------------------------------------------------
-- Edits
------------------------------------------------------------

namespace SourceDocs

/-
  One place of a text that is written anew: the text before
  it, what it covers, what is written there, and the text
  after it.
-/
structure Edit where
  before : Text
  covered : Text
  written : Text
  after : Text
  deriving DecidableEq, Repr

namespace Edit

/- The text before an edit. -/
def source (e : Edit) : Text :=
  e.before ++ e.covered ++ e.after

/- The text after an edit. -/
def result (e : Edit) : Text :=
  e.before ++ e.written ++ e.after

/- Edits one after another lead from a text to another. -/
inductive Leads : Text → List Edit → Text → Prop
| done (t : Text) : Leads t [] t
| step (e : Edit) {es : List Edit} {t : Text}
    (hRest : Leads e.result es t) : Leads e.source (e :: es) t

/- What every edit keeps is kept by all of them together. -/
theorem Leads.observe_eq
    {β : Type}
    {observe : Text → β}
    {es : List Edit}
    {t u : Text}
    (h : Leads t es u)
    (hKept : ∀ e ∈ es, observe e.result = observe e.source) :
    observe u = observe t := by
  induction h with
  | done => rfl
  | step e hRest ih =>
      rw [ih fun e he => hKept e (List.mem_cons_of_mem _ he)]
      exact hKept e List.mem_cons_self

end Edit

------------------------------------------------------------
-- Edits Of A Replacement
------------------------------------------------------------

namespace Fence

variable {α : Type}

/-
  The edits of the occurrences that change, from left to
  right, where `before` has been written already.
-/
def editsFrom
    (write : Occurrence α → Text)
    (t before : Text) : List (Occurrence α) → List Edit
| [] => []
| o :: os =>
  let here := before ++ o.gap
  let written := rewritten write t o
  let later := editsFrom write t (here ++ written) os
  if written = o.covered then later
  else ⟨here, o.covered, written, o.after⟩ :: later

/- The edits of a replacement outside of fences. -/
def edits
    (read : Reader α)
    (write : Occurrence α → Text)
    (t : Text) : List Edit :=
  editsFrom write t [] (t.cut read).occurrences

/- The edits lead from the old pieces to the new ones. -/
theorem leads_editsFrom
    {read : Reader α}
    (write : Occurrence α → Text)
    (t : Text)
    {s r : Text}
    {os : List (Occurrence α)}
    (hCut : Text.CutsTo read s os r)
    (before : Text) :
    Edit.Leads (before ++ s) (editsFrom write t before os)
      (before ++
        (os.flatMap (fun o => o.gap ++ rewritten write t o) ++
          r)) := by
  induction hCut generalizing before with
  | rest => exact .done _
  | @next gap x u r v os hGap hFound hCovers hRest ih =>
      have hLater :=
        ih (before ++ gap ++ rewritten write t ⟨gap, v, x, u⟩)
      simp only [List.flatMap_cons, List.append_assoc]
        at hLater ⊢
      rw [editsFrom]
      simp only [List.append_assoc]
      split_ifs with hSame
      · rw [hSame] at hLater ⊢
        exact hLater
      · have hStep :=
          Edit.Leads.step
            ⟨before ++ gap, x, rewritten write t ⟨gap, v, x, u⟩, u⟩
            (by
              simpa only [Edit.result, List.append_assoc]
                using hLater)
        simpa only [Edit.source, List.append_assoc] using hStep

theorem leads_edits
    {read : Reader α}
    (hSteady : read.Steady)
    (hFrames : Frames read)
    (write : Occurrence α → Text)
    (t : Text) :
    Edit.Leads t (edits read write t)
      (replaceOutside read write t).1 := by
  have hLeads :=
    leads_editsFrom write t (Text.cutsTo_cut hSteady t) []
  rw [replaceOutside_eq hSteady hFrames]
  exact hLeads

theorem exists_of_mem_editsFrom
    {write : Occurrence α → Text}
    {t before : Text}
    {os : List (Occurrence α)}
    {e : Edit}
    (he : e ∈ editsFrom write t before os) :
    ∃ o ∈ os, write o ≠ o.covered ∧
      e.covered = o.covered ∧ e.written = write o := by
  induction os generalizing before with
  | nil => simp [editsFrom] at he
  | cons o os ih =>
      rw [editsFrom] at he
      have hLater :
          e ∈ editsFrom write t
              (before ++ o.gap ++ rewritten write t o) os →
            ∃ o' ∈ o :: os, write o' ≠ o'.covered ∧
              e.covered = o'.covered ∧ e.written = write o' := by
        intro hMem
        rcases ih hMem with ⟨o', ho', hSpec⟩
        exact ⟨o', List.mem_cons_of_mem _ ho', hSpec⟩
      split_ifs at he with hSame
      · exact hLater he
      · rcases List.mem_cons.mp he with rfl | he
        · have hOutside : startsOutside t o = true := by
            by_contra hInside
            exact hSame (by rw [rewritten, if_neg hInside])
          rw [rewritten, if_pos hOutside] at hSame ⊢
          exact ⟨o, List.mem_cons_self, hSame, rfl, rfl⟩
        · exact hLater he

end Fence

------------------------------------------------------------
-- Edits Of A Repair
------------------------------------------------------------

namespace Link

/- Links start and end with brackets. -/
theorem reader_frames : Fence.Frames reader := by
  intro t link x h
  rcases reader_eq_some_iff.mp h with ⟨-, rfl⟩
  refine ⟨'[', link.label ++ ']' :: '(' :: link.target, ')', ?_,
    by decide, by decide⟩
  simp [render]

end Link

namespace Placeholder

/- Placeholders start and end with braces. -/
theorem reader_frames : Fence.Frames reader := by
  intro t p x h
  rcases reader_eq_some_iff.mp h with ⟨-, rfl⟩
  refine ⟨'\x7b', "ref:".toList ++ p.name, '\x7d', ?_,
    by decide, by decide⟩
  simp [render, opening]

end Placeholder

namespace LinkRepair

/- The edits of placeholders in a text of `current`. -/
def placeholderEdits
    (repair : LinkRepair)
    (current t : Text) : List Edit :=
  Fence.edits Placeholder.reader
    (fun o => repair.writePlaceholder current o.value) t

/- The edits of links in a text of `current`. -/
def linkEdits
    (repair : LinkRepair)
    (current t : Text) : List Edit :=
  Fence.edits Link.reader
    (fun o => repair.writeLink current o.value) t

/- The edits of one pass behind the repair of source URLs. -/
def passEdits
    (repair : LinkRepair)
    (current t : Text) : List Edit :=
  repair.placeholderEdits current t ++
    repair.linkEdits current
      (repair.repairPlaceholders current t).1

/- The edits of the passes that change a text. -/
def settleEdits
    (repair : LinkRepair)
    (current : Text) : Nat → Text → List Edit
| 0, _ => []
| n + 1, t =>
  if repair.pass current t = t then []
  else
    repair.passEdits current (repair.repairSources t) ++
      settleEdits repair current n (repair.pass current t)

/- The edits that repair a document. -/
def edits
    (repair : LinkRepair)
    (d : Document) : List Edit :=
  repair.settleEdits d.path passLimit d.text

variable {β : Type}
variable {repair : LinkRepair}
variable {current : Text}
variable {observe : Text → β}
variable {Calm : Edit → Prop}

/- What calm edits keep in either half of a pass is kept. -/
theorem observe_settle
    (hSources : repair.sources = none)
    (hPlaceholders :
      ∀ t, (∀ e ∈ repair.placeholderEdits current t, Calm e) →
        observe (repair.repairPlaceholders current t).1 =
          observe t)
    (hLinks :
      ∀ t, (∀ e ∈ repair.linkEdits current t, Calm e) →
        observe (repair.repairLinks current t).1 = observe t)
    (n : Nat)
    (t : Text)
    (hCalm : ∀ e ∈ repair.settleEdits current n t, Calm e) :
    observe (settle (repair.pass current) n t) = observe t := by
  induction n generalizing t with
  | zero => rfl
  | succ n ih =>
      rw [settle]
      rw [settleEdits] at hCalm
      split_ifs at hCalm ⊢ with hSame
      · rfl
      · have hText : repair.repairSources t = t := by
          rw [repairSources, hSources]
        rw [hText, passEdits] at hCalm
        simp only [List.mem_append] at hCalm
        rw [ih _ fun e he => hCalm e (Or.inr he), pass, hText,
          hLinks _ fun e he => hCalm e (Or.inl (Or.inr he)),
          hPlaceholders _ fun e he =>
            hCalm e (Or.inl (Or.inl he))]

/- What calm edits keep is kept by the repair of a document. -/
theorem observe_repairDocument
    {d : Document}
    (hSources : repair.sources = none)
    (hPlaceholders :
      ∀ t, (∀ e ∈ repair.placeholderEdits d.path t, Calm e) →
        observe (repair.repairPlaceholders d.path t).1 =
          observe t)
    (hLinks :
      ∀ t, (∀ e ∈ repair.linkEdits d.path t, Calm e) →
        observe (repair.repairLinks d.path t).1 = observe t)
    (hCalm : ∀ e ∈ repair.edits d, Calm e) :
    observe (repair.repairDocument d) = observe d.text :=
  observe_settle hSources hPlaceholders hLinks passLimit d.text
    hCalm

end LinkRepair

end SourceDocs
