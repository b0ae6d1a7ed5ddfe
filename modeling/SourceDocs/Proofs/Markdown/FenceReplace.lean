import SourceDocs.Proofs.Markdown.FenceCount
import SourceDocs.Proofs.Text.Cuts

/-
  Replacing what stands outside of fences, as a rewriting of
  the occurrences whose text before them holds an even
  number of fences.

  Key definitions include:
    * `SourceDocs.Fence.outside`
    * `SourceDocs.Fence.Frames`
    * `SourceDocs.Fence.rewritten`
    * `SourceDocs.Fence.IsTallied`

  Main results:
    * `SourceDocs.Fence.isTallied_of_cutsTo`
    * `SourceDocs.Fence.replaceOutside_eq`
    * `SourceDocs.Fence.changed_replaceOutside`
    * `SourceDocs.Fence.replaceOutside_eq_self`
    * `SourceDocs.Fence.outside_kept_of_replaceOutside_eq`
-/

------------------------------------------------------------
-- Occurrences Outside Of Fences
------------------------------------------------------------

namespace SourceDocs

variable {α : Type}

namespace Fence

/- Whether an occurrence in a text starts outside of code. -/
def startsOutside
    (t : Text)
    (o : Occurrence α) : Bool :=
  isOutside (count (o.textBefore t))

/- The occurrences in a text that start outside of code. -/
def outside
    (read : Reader α)
    (t : Text) : List (Occurrence α) :=
  (t.cut read).occurrences.filter (startsOutside t)

/- What an occurrence becomes if only outer ones change. -/
def rewritten
    (write : Occurrence α → Text)
    (t : Text)
    (o : Occurrence α) : Text :=
  if startsOutside t o then write o else o.covered

/- No fence reaches into or out of what a reader finds. -/
def Frames (read : Reader α) : Prop :=
  ∀ t v x, read none t = some (v, x) →
    ∃ c m d, x = c :: (m ++ [d]) ∧ c ≠ tick ∧ d ≠ tick

/- Fences before a find are counted apart from it. -/
theorem Frames.not_straddles_before
    {read : Reader α}
    (hFrames : Frames read)
    {t x : Text}
    {v : α}
    (hFound : read none t = some (v, x))
    (a u : Text) : ¬ Straddles a (x ++ u) := by
  rcases hFrames t v x hFound with ⟨c, m, d, rfl, hc, -⟩
  exact not_straddles_cons hc

theorem Frames.not_straddles_behind
    {read : Reader α}
    (hFrames : Frames read)
    {t x : Text}
    {v : α}
    (hFound : read none t = some (v, x))
    (a u : Text) : ¬ Straddles (a ++ x) u := by
  rcases hFrames t v x hFound with ⟨c, m, d, rfl, -, hd⟩
  rw [← List.cons_append, ← List.append_assoc]
  exact not_straddles_concat hd

/-
  The fences before an occurrence that starts behind `p` and
  a gap, if all seams are free of fences.
-/
theorem count_textBefore
    {read : Reader α}
    (hFrames : Frames read)
    {p gap x u : Text}
    {v : α}
    (hFound : read none (x ++ u) = some (v, x))
    (hSeam : ¬ Straddles p (gap ++ (x ++ u))) :
    count (p ++ gap) = count p + count gap ∧
      count (p ++ gap ++ x) = count p + count gap + count x := by
  have hGap := count_append (not_straddles_append hSeam)
  have hFind :=
    hFrames.not_straddles_before hFound (p ++ gap) []
  rw [List.append_nil] at hFind
  exact ⟨hGap, by rw [count_append hFind, hGap]⟩

------------------------------------------------------------
-- Replacing By Whole Prefixes
------------------------------------------------------------

/-
  Whether the fences counted piece by piece in front of each
  occurrence are those of the whole text before it, where
  `fences` are counted already.
-/
def IsTallied
    (t : Text) : Nat → List (Occurrence α) → Prop
| _, [] => True
| fences, o :: os =>
  fences + count o.gap = count (o.textBefore t) ∧
    IsTallied t (fences + count o.gap + count o.covered) os

/- The occurrences of a text behind another are tallied. -/
theorem isTallied_of_cutsTo
    {read : Reader α}
    (hFrames : Frames read)
    {s r : Text}
    {os : List (Occurrence α)}
    (hCut : Text.CutsTo read s os r)
    (p : Text)
    (hSeam : ¬ Straddles p s) :
    IsTallied (p ++ s) (count p) os := by
  induction hCut generalizing p with
  | rest => trivial
  | @next gap x u r v os hGap hFound hCovers hRest ih =>
      rcases count_textBefore hFrames hFound hSeam with
        ⟨hBefore, hBehind⟩
      have hNext :=
        ih (p ++ gap ++ x)
          (hFrames.not_straddles_behind hFound _ _)
      have hText : p ++ gap ++ x ++ u = p ++ (gap ++ (x ++ u)) := by
        simp
      rw [hBehind, hText] at hNext
      refine ⟨?_, hNext⟩
      rw [← List.append_assoc p, Occurrence.textBefore_append]
      exact hBefore.symm

theorem isTallied_cut
    {read : Reader α}
    (hSteady : read.Steady)
    (hFrames : Frames read)
    (t : Text) : IsTallied t 0 (t.cut read).occurrences :=
  isTallied_of_cutsTo hFrames (Text.cutsTo_cut hSteady t) [] (by
    rintro (⟨h, -⟩ | ⟨h, -⟩) <;> simp at h)

/- What is replaced is what starts outside of code. -/
theorem replaceFrom_eq
    (write : Occurrence α → Text)
    {t : Text}
    {fences : Nat}
    {os : List (Occurrence α)}
    (hTallied : IsTallied t fences os) :
    replaceFrom write fences os =
      (os.flatMap fun o => o.gap ++ rewritten write t o,
        os.countP fun o => rewritten write t o ≠ o.covered) := by
  induction os generalizing fences with
  | nil => rfl
  | cons o os ih =>
      rcases hTallied with ⟨hHere, hRest⟩
      have hWritten :
          (if isOutside (fences + count o.gap) then write o
            else o.covered) = rewritten write t o := by
        rw [rewritten, startsOutside, hHere]
      rw [replaceFrom, ih hRest]
      dsimp only
      rw [hWritten, List.flatMap_cons, List.countP_cons]
      by_cases hSame : rewritten write t o = o.covered
      · simp [hSame]
      · simp [hSame]

/-
  Replacing rewrites in its place each occurrence that
  starts outside of code.
-/
theorem replaceOutside_eq
    {read : Reader α}
    (hSteady : read.Steady)
    (hFrames : Frames read)
    (write : Occurrence α → Text)
    (t : Text) :
    (replaceOutside read write t).1 =
      (t.cut read).replace (rewritten write t) := by
  rw [replaceOutside,
    replaceFrom_eq write (isTallied_cut hSteady hFrames t),
    Cut.replace]

/- An occurrence in code never comes out different. -/
theorem countP_rewritten
    (write : Occurrence α → Text)
    (t : Text)
    (os : List (Occurrence α)) :
    (os.countP fun o => rewritten write t o ≠ o.covered) =
      (os.filter (startsOutside t)).countP
        fun o => write o ≠ o.covered := by
  rw [List.countP_filter]
  refine List.countP_congr fun o _ => ?_
  rw [rewritten]
  split_ifs with hOutside
  · simp [hOutside]
  · simp [hOutside]

/- The number is that of the outer ones written anew. -/
theorem changed_replaceOutside
    {read : Reader α}
    (hSteady : read.Steady)
    (hFrames : Frames read)
    (write : Occurrence α → Text)
    (t : Text) :
    (replaceOutside read write t).2 =
      (outside read t).countP fun o => write o ≠ o.covered := by
  rw [replaceOutside,
    replaceFrom_eq write (isTallied_cut hSteady hFrames t),
    outside, ← countP_rewritten]

------------------------------------------------------------
-- Texts That Stay
------------------------------------------------------------

/- A text stays if each outer occurrence is written as is. -/
theorem replaceOutside_eq_self
    {read : Reader α}
    (hSteady : read.Steady)
    (hFrames : Frames read)
    {write : Occurrence α → Text}
    {t : Text}
    (hKept : ∀ o ∈ outside read t, write o = o.covered) :
    (replaceOutside read write t).1 = t := by
  rw [replaceOutside_eq hSteady hFrames, Cut.replace]
  conv_rhs => rw [(Text.cutsTo_cut hSteady t).text_eq]
  congr 1
  refine List.flatMap_congr fun o ho => ?_
  rw [rewritten]
  split_ifs with hOutside
  · rw [hKept o (List.mem_filter.mpr ⟨ho, hOutside⟩)]
  · rfl

/-
  If pieces put in place of the occurrences leave the text
  as it is, and no piece that differs from its occurrence
  starts or continues it, then no piece differs.
-/
theorem pieces_eq_covered
    {read : Reader α}
    {s r : Text}
    {os : List (Occurrence α)}
    (hCut : Text.CutsTo read s os r)
    (piece : Occurrence α → Text)
    (hEq : os.flatMap (fun o => o.gap ++ piece o) ++ r = s)
    (hParts :
      ∀ o ∈ os, ∀ a b, piece o ++ a = o.covered ++ b →
        piece o = o.covered) :
    ∀ o ∈ os, piece o = o.covered := by
  induction hCut with
  | rest => simp
  | @next gap x u r v os hGap hFound hCovers hRest ih =>
      rw [List.flatMap_cons, List.append_assoc,
        List.append_assoc, List.append_cancel_left_eq] at hEq
      have hHead := hParts _ List.mem_cons_self _ _ hEq
      rw [hHead, List.append_cancel_left_eq] at hEq
      have hTail := ih hEq fun o ho =>
        hParts o (List.mem_cons_of_mem _ ho)
      intro o ho
      rcases List.mem_cons.mp ho with rfl | ho
      · exact hHead
      · exact hTail o ho

/- The same for the occurrences outside of code. -/
theorem outside_kept_of_replaceOutside_eq
    {read : Reader α}
    (hSteady : read.Steady)
    (hFrames : Frames read)
    {write : Occurrence α → Text}
    {t : Text}
    (hEq : (replaceOutside read write t).1 = t)
    (hParts :
      ∀ o ∈ outside read t, ∀ a b,
        write o ++ a = o.covered ++ b → write o = o.covered) :
    ∀ o ∈ outside read t, write o = o.covered := by
  rw [replaceOutside_eq hSteady hFrames, Cut.replace] at hEq
  have hAll :=
    pieces_eq_covered (Text.cutsTo_cut hSteady t)
      (rewritten write t) hEq (by
        intro o ho a b hSame
        rw [rewritten] at hSame ⊢
        split_ifs at hSame ⊢ with hOutside
        · exact hParts o (List.mem_filter.mpr ⟨ho, hOutside⟩)
            a b hSame
        · rfl)
  intro o ho
  rcases List.mem_filter.mp ho with ⟨hMem, hOutside⟩
  have hPiece := hAll o hMem
  rwa [rewritten, if_pos hOutside] at hPiece

------------------------------------------------------------
-- Weights
------------------------------------------------------------

def weigh (weight : Char → Nat) : Text → Nat
| [] => 0
| c :: t => weight c + weigh weight t

@[simp] theorem weigh_nil (weight : Char → Nat) :
    weigh weight [] = 0 := rfl

@[simp] theorem weigh_cons
    (weight : Char → Nat)
    (c : Char)
    (t : Text) :
    weigh weight (c :: t) = weight c + weigh weight t := rfl

@[simp] theorem weigh_append
    (weight : Char → Nat)
    (a b : Text) :
    weigh weight (a ++ b) = weigh weight a + weigh weight b := by
  induction a with
  | nil => simp
  | cons c a ih =>
      rw [List.cons_append, weigh_cons, weigh_cons, ih]
      omega

/-
  Pieces that weigh no more than the occurrences make a text
  that weighs no more, and only then as much if each piece
  weighs as much as its occurrence.
-/
theorem weigh_pieces
    {read : Reader α}
    {s r : Text}
    {os : List (Occurrence α)}
    (weight : Char → Nat)
    (hCut : Text.CutsTo read s os r)
    (piece : Occurrence α → Text)
    (hLe :
      ∀ o ∈ os, weigh weight (piece o) ≤ weigh weight o.covered) :
    weigh weight (os.flatMap (fun o => o.gap ++ piece o) ++ r) ≤
        weigh weight s ∧
      (weigh weight s ≤
          weigh weight
            (os.flatMap (fun o => o.gap ++ piece o) ++ r) →
        ∀ o ∈ os,
          weigh weight (piece o) = weigh weight o.covered) := by
  induction hCut with
  | rest => simp
  | @next gap x u r v os hGap hFound hCovers hRest ih =>
      have hHead := hLe _ List.mem_cons_self
      rcases ih fun o ho =>
        hLe o (List.mem_cons_of_mem _ ho) with ⟨hTail, hSame⟩
      simp only [List.flatMap_cons, weigh_append]
        at hTail hSame hHead ⊢
      refine ⟨by omega, fun hGe o ho => ?_⟩
      rcases List.mem_cons.mp ho with rfl | ho
      · dsimp only at hHead hGe ⊢
        omega
      · exact hSame (by omega) o ho

/- The same for the occurrences outside of code. -/
theorem weigh_replaceOutside
    {read : Reader α}
    (hSteady : read.Steady)
    (hFrames : Frames read)
    (weight : Char → Nat)
    {write : Occurrence α → Text}
    {t : Text}
    (hLe :
      ∀ o ∈ outside read t,
        weigh weight (write o) ≤ weigh weight o.covered) :
    weigh weight (replaceOutside read write t).1 ≤
        weigh weight t ∧
      (weigh weight t ≤
          weigh weight (replaceOutside read write t).1 →
        ∀ o ∈ outside read t,
          weigh weight (write o) = weigh weight o.covered) := by
  rw [replaceOutside_eq hSteady hFrames, Cut.replace]
  rcases weigh_pieces weight (Text.cutsTo_cut hSteady t)
      (rewritten write t) (by
        intro o ho
        rw [rewritten]
        split_ifs with hOutside
        · exact hLe o (List.mem_filter.mpr ⟨ho, hOutside⟩)
        · exact Nat.le_refl _) with ⟨hLess, hSame⟩
  refine ⟨hLess, fun hGe o ho => ?_⟩
  rcases List.mem_filter.mp ho with ⟨hMem, hOutside⟩
  have hPiece := hSame hGe o hMem
  rwa [rewritten, if_pos hOutside] at hPiece

end Fence

end SourceDocs
