import Mathlib.Data.List.Basic
import SourceDocs.Markdown.Fence

/-
  Fences over a seam of two texts, and the blocks of code
  that fences enclose.

  Key definitions include:
    * `SourceDocs.Fence.Straddles`
    * `SourceDocs.Fence.blocks`

  Main results:
    * `SourceDocs.Fence.count_append`
    * `SourceDocs.Fence.blocks_append`
-/

------------------------------------------------------------
-- Seams
------------------------------------------------------------

namespace SourceDocs

namespace Fence

/- The character that fences are made of. -/
def tick : Char := '\x60'

/- A fence. -/
def mark : Text := [tick, tick, tick]

/-
  Three backticks stand across the seam of two texts, some
  of them on either side.
-/
def Straddles (a b : Text) : Prop :=
  ([tick] <:+ a ∧ [tick, tick] <+: b) ∨
    ([tick, tick] <:+ a ∧ [tick] <+: b)

instance (a b : Text) : Decidable (Straddles a b) := by
  unfold Straddles
  infer_instance

/- A seam is only about the end of the text before it. -/
theorem Straddles.cons
    {a b : Text}
    (c : Char)
    (h : Straddles a b) : Straddles (c :: a) b := by
  rcases h with ⟨ha, hb⟩ | ⟨ha, hb⟩
  · exact Or.inl ⟨ha.trans (List.suffix_cons c a), hb⟩
  · exact Or.inr ⟨ha.trans (List.suffix_cons c a), hb⟩

/- A seam is only about the front of the text behind it. -/
theorem not_straddles_append
    {a b c : Text}
    (h : ¬ Straddles a (b ++ c)) : ¬ Straddles a b := by
  rintro (⟨ha, hb⟩ | ⟨ha, hb⟩)
  · exact h (Or.inl ⟨ha, hb.trans (List.prefix_append b c)⟩)
  · exact h (Or.inr ⟨ha, hb.trans (List.prefix_append b c)⟩)

/- No fence starts with another character than a backtick. -/
theorem not_straddles_cons
    {a b : Text}
    {c : Char}
    (hTick : c ≠ tick) : ¬ Straddles a (c :: b) := by
  rintro (⟨-, hb⟩ | ⟨-, hb⟩) <;>
    exact hTick (List.cons_prefix_cons.mp hb).1.symm

/- No fence ends with another character than a backtick. -/
theorem not_straddles_concat
    {a b : Text}
    {c : Char}
    (hTick : c ≠ tick) : ¬ Straddles (a ++ [c]) b := by
  rintro (⟨ha, -⟩ | ⟨ha, -⟩)
  · rw [List.suffix_concat_iff] at ha
    rcases ha with ha | ⟨s, hs, -⟩
    · exact List.cons_ne_nil _ _ ha
    · change [] ++ [tick] = s ++ [c] at hs
      rcases List.append_inj' hs rfl with ⟨-, hEq⟩
      exact hTick (List.cons.inj hEq).1.symm
  · rw [List.suffix_concat_iff] at ha
    rcases ha with ha | ⟨s, hs, -⟩
    · exact List.cons_ne_nil _ _ ha
    · change [tick] ++ [tick] = s ++ [c] at hs
      rcases List.append_inj' hs rfl with ⟨-, hEq⟩
      exact hTick (List.cons.inj hEq).1.symm

/- Without a fence across the seam none starts before it. -/
theorem not_mark_prefix_append
    {c : Char}
    {a b : Text}
    (hMark : ¬ mark <+: c :: a)
    (hSeam : ¬ Straddles (c :: a) b) :
    ¬ mark <+: c :: (a ++ b) := by
  intro hBoth
  rcases List.cons_prefix_cons.mp hBoth with ⟨rfl, hTwo⟩
  rcases a with _ | ⟨d, _ | ⟨e, a⟩⟩
  · exact hSeam (Or.inl ⟨List.suffix_rfl, hTwo⟩)
  · rcases List.cons_prefix_cons.mp hTwo with ⟨rfl, hOne⟩
    exact hSeam (Or.inr ⟨List.suffix_rfl, hOne⟩)
  · rcases List.cons_prefix_cons.mp hTwo with ⟨rfl, hOne⟩
    rcases List.cons_prefix_cons.mp hOne with ⟨rfl, -⟩
    exact hMark ⟨a, rfl⟩

------------------------------------------------------------
-- Counting
------------------------------------------------------------

@[simp] theorem count_nil : count [] = 0 := rfl

@[simp] theorem count_mark (t : Text) :
    count (mark ++ t) = count t + 1 := rfl

theorem count_cons
    {c : Char}
    {t : Text}
    (hMark : ¬ mark <+: c :: t) :
    count (c :: t) = count t := by
  rw [count]
  rintro rest rfl rfl
  exact hMark ⟨rest, rfl⟩

/-
  A text starts with a fence, or it starts with a character
  at which no fence starts, or it is empty.
-/
theorem mark_induction
    {motive : Text → Prop}
    (nil : motive [])
    (fence : ∀ t, motive t → motive (mark ++ t))
    (cons :
      ∀ c t, ¬ mark <+: c :: t → motive t → motive (c :: t))
    (t : Text) : motive t := by
  induction t using count.induct with
  | case1 t ih => exact fence t ih
  | case2 c t hMark ih =>
      refine cons c t ?_ ih
      rintro ⟨s, hs⟩
      rcases List.cons.inj hs with ⟨rfl, rfl⟩
      exact hMark s rfl rfl
  | case3 => exact nil

/- Fences are counted apart if none goes across the seam. -/
theorem count_append
    {a b : Text}
    (hSeam : ¬ Straddles a b) :
    count (a ++ b) = count a + count b := by
  induction a using mark_induction with
  | nil => simp
  | fence a ih =>
      have hRest : ¬ Straddles a b := fun h =>
        hSeam (((h.cons tick).cons tick).cons tick)
      rw [List.append_assoc, count_mark, count_mark, ih hRest]
      omega
  | cons c a hMark ih =>
      have hRest : ¬ Straddles a b := fun h => hSeam (h.cons c)
      rw [List.cons_append,
        count_cons (not_mark_prefix_append hMark hSeam),
        count_cons hMark, ih hRest]

------------------------------------------------------------
-- Blocks
------------------------------------------------------------

/-
  The blocks of code in a text. `opened` is the block that
  the text starts in, nearest character first, if it does;
  a block that no fence closes goes on to the end.
-/
def blocksFrom : Option Text → Text → List Text
| none, '\x60' :: '\x60' :: '\x60' :: rest =>
  blocksFrom (some []) rest
| some block, '\x60' :: '\x60' :: '\x60' :: rest =>
  block.reverse :: blocksFrom none rest
| opened, c :: rest => blocksFrom (opened.map (c :: ·)) rest
| opened, [] => (opened.map List.reverse).toList

/- What stands in the fences of a text, block by block. -/
def blocks (t : Text) : List Text :=
  blocksFrom none t

/- Whether every block of a text is closed. -/
def IsClosed (t : Text) : Prop :=
  isOutside (count t) = true

instance (t : Text) : Decidable (IsClosed t) := by
  unfold IsClosed
  infer_instance

theorem isClosed_iff {t : Text} :
    IsClosed t ↔ count t % 2 = 0 := by
  simp [IsClosed, isOutside]

@[simp] theorem blocksFrom_none_mark (t : Text) :
    blocksFrom none (mark ++ t) = blocksFrom (some []) t := rfl

@[simp] theorem blocksFrom_some_mark (block t : Text) :
    blocksFrom (some block) (mark ++ t) =
      block.reverse :: blocksFrom none t := rfl

theorem blocksFrom_cons
    {opened : Option Text}
    {c : Char}
    {t : Text}
    (hMark : ¬ mark <+: c :: t) :
    blocksFrom opened (c :: t) =
      blocksFrom (opened.map (c :: ·)) t := by
  have hNone : ∀ rest, c = tick → t = tick :: tick :: rest →
      False := by
    rintro rest rfl rfl
    exact hMark ⟨rest, rfl⟩
  rw [blocksFrom]
  · exact fun rest _ => hNone rest
  · exact fun _ rest _ => hNone rest

/-
  Behind a text that leaves no block open the blocks start
  anew: an even number of fences if none was open, else an
  odd one.
-/
theorem blocksFrom_append
    {opened : Option Text}
    {a b : Text}
    (hSeam : ¬ Straddles a b)
    (hClosed : count a % 2 = if opened.isSome then 1 else 0) :
    blocksFrom opened (a ++ b) =
      blocksFrom opened a ++ blocks b := by
  induction a using mark_induction generalizing opened with
  | nil =>
      cases opened with
      | none => simp [blocksFrom, blocks]
      | some block => simp at hClosed
  | fence a ih =>
      have hRest : ¬ Straddles a b := fun h =>
        hSeam (((h.cons tick).cons tick).cons tick)
      rw [count_mark] at hClosed
      cases opened with
      | none =>
          rw [List.append_assoc, blocksFrom_none_mark,
            blocksFrom_none_mark]
          exact ih hRest (by
            simp only [Option.isSome_none, Bool.false_eq_true,
              if_false, Option.isSome_some, if_true] at hClosed ⊢
            omega)
      | some block =>
          rw [List.append_assoc, blocksFrom_some_mark,
            blocksFrom_some_mark, List.cons_append]
          refine congrArg _ (ih hRest ?_)
          simp only [Option.isSome_none, Bool.false_eq_true,
            if_false, Option.isSome_some, if_true] at hClosed ⊢
          omega
  | cons c a hMark ih =>
      have hRest : ¬ Straddles a b := fun h => hSeam (h.cons c)
      rw [count_cons hMark] at hClosed
      rw [List.cons_append,
        blocksFrom_cons (not_mark_prefix_append hMark hSeam),
        blocksFrom_cons hMark]
      exact ih hRest (by simpa using hClosed)

/- The blocks of a text behind another that is closed. -/
theorem blocks_append
    {a b : Text}
    (hSeam : ¬ Straddles a b)
    (hClosed : IsClosed a) :
    blocks (a ++ b) = blocks a ++ blocks b :=
  blocksFrom_append hSeam (by
    simpa using isClosed_iff.mp hClosed)

theorem IsClosed.append
    {a b : Text}
    (ha : IsClosed a)
    (hb : IsClosed b)
    (hSeam : ¬ Straddles a b) : IsClosed (a ++ b) := by
  rw [isClosed_iff] at ha hb ⊢
  rw [count_append hSeam]
  omega

end Fence

end SourceDocs
