import SourceDocs.Proofs.LinkRepair.Edits
import SourceDocs.Proofs.Text.Replacing

/-
  For which links and placeholders the replacing function is
  called.

  Fences are counted piece by piece, in the gaps and in what
  the finds cover. No fence reaches over an end of a find,
  so the pieces add up to the fences of the whole text before
  each find, and that number alone tells whether the function
  is called for it.

  A function may keep a state of its own between its calls.
  Then it matters for which finds it is called and in which
  order. A function that writes down what it is called for
  tells both.

  Key definitions include:
    * `SourceDocs.Fence.replaceOutsideM`
    * `SourceDocs.Fence.pieceM`
    * `SourceDocs.Fence.logged`
    * `SourceDocs.Fence.ReplacesByPrefixes`

  Main results:
    * `SourceDocs.Fence.countOf_mark`
    * `SourceDocs.Fence.replaceOutsideM_eq`
    * `SourceDocs.Fence.run_replaceOutsideM_logged`
    * `SourceDocs.Fence.replaceOutside_by_prefixes`
-/

------------------------------------------------------------
-- Fences As Occurrences
------------------------------------------------------------

namespace SourceDocs

namespace Fence

/- Fences are counted like any text, overlaps left out. -/
theorem countOf_mark (t : Text) :
    Text.countOf mark t = count t := by
  have hSteady := Reader.literal_steady mark
  -- a cut that is begun with a gap finds the same occurrences
  have hCount :
      ∀ (before : Option Char) (gap : Text),
        (Text.cutFrom (Reader.literal mark) before 0 gap
          t).occurrences.length = count t := by
    induction t using mark_induction with
    | nil =>
        intro before gap
        rfl
    | fence t ih =>
        intro before gap
        have hFound :
            Reader.literal mark none (mark ++ t) =
              some ((), mark) :=
          Reader.literal_eq_some_iff.mpr
            ⟨List.prefix_append mark t, rfl⟩
        rcases Text.cutFrom_of_found hSteady before gap hFound
          (List.cons_ne_nil _ _) with ⟨b, hCut⟩
        rw [hCut, Cut.cons, List.length_cons, ih, count_mark]
    | cons c t hMark ih =>
        intro before gap
        rw [Text.cutFrom_cons_of_skips hSteady before gap
          (Reader.literal_skips hMark), ih, count_cons hMark]
  exact hCount none []

variable {α σ : Type}

theorem startsOutside_iff
    {t : Text}
    {o : Occurrence α} :
    startsOutside t o = true ↔
      Text.countOf mark (o.textBefore t) % 2 = 0 := by
  rw [countOf_mark, startsOutside, isOutside, beq_iff_eq]

------------------------------------------------------------
-- Functions With A State
------------------------------------------------------------

/-
  The replaced occurrences as in `replaceFrom`, by a function
  that keeps a state.
-/
def replaceFromM
    (write : Occurrence α → StateM σ Text)
    (fences : Nat) :
    List (Occurrence α) → StateM σ (Text × Nat)
| [] => return ([], 0)
| o :: os => do
  let start := fences + count o.gap
  let written ←
    (if isOutside start then write o else pure o.covered)
  let (after, changed) ←
    replaceFromM write (start + count o.covered) os
  return (o.gap ++ written ++ after,
    changed + if written = o.covered then 0 else 1)

/- Replacing as in `replaceOutside`, by such a function. -/
def replaceOutsideM
    (read : Reader α)
    (write : Occurrence α → StateM σ Text)
    (t : Text) : StateM σ (Text × Nat) := do
  let cut := t.cut read
  let (before, changed) ← replaceFromM write 0 cut.occurrences
  return (before ++ cut.rest, changed)

/-
  The piece that is put in place of an occurrence: what the
  function makes of it behind an even number of fences, and
  else what it covers.
-/
def pieceM
    (write : Occurrence α → StateM σ Text)
    (t : Text)
    (o : Occurrence α) : StateM σ Text :=
  if Text.countOf mark (o.textBefore t) % 2 = 0 then write o
  else pure o.covered

/- The gaps of occurrences with a piece behind each. -/
def filled
    (os : List (Occurrence α))
    (pieces : List Text) : Text :=
  (List.zipWith (fun o piece => o.gap ++ piece) os
    pieces).flatten

/- How many pieces differ from what they are put in for. -/
def changes
    (os : List (Occurrence α))
    (pieces : List Text) : Nat :=
  (os.zip pieces).countP fun (o, piece) => piece ≠ o.covered

theorem pieceM_eq
    (write : Occurrence α → StateM σ Text)
    (t : Text)
    (o : Occurrence α) :
    pieceM write t o =
      if startsOutside t o then write o else pure o.covered := by
  rw [pieceM]
  simp only [startsOutside_iff]

/- The function is called as the texts before tell. -/
theorem replaceFromM_eq
    (write : Occurrence α → StateM σ Text)
    {t : Text}
    {fences : Nat}
    {os : List (Occurrence α)}
    (hTallied : IsTallied t fences os) :
    replaceFromM write fences os = do
      let pieces ← os.mapM (pieceM write t)
      return (filled os pieces, changes os pieces) := by
  induction os generalizing fences with
  | nil => rfl
  | cons o os ih =>
      rcases hTallied with ⟨hHere, hRest⟩
      rw [replaceFromM, ih hRest, List.mapM_cons, pieceM_eq,
        startsOutside, ← hHere]
      simp only [bind_assoc, pure_bind]
      -- the calls are the same; the text and the number are left
      refine bind_congr fun piece => bind_congr fun pieces => ?_
      rw [filled, filled, changes, changes, List.zipWith_cons_cons,
        List.flatten_cons, List.zip_cons_cons, List.countP_cons]
      by_cases hSame : piece = o.covered
      · simp [hSame]
      · simp [hSame]

theorem replaceOutsideM_eq
    {read : Reader α}
    (hSteady : read.Steady)
    (hFrames : Frames read)
    (write : Occurrence α → StateM σ Text)
    (t : Text) :
    replaceOutsideM read write t = do
      let os := (t.cut read).occurrences
      let pieces ← os.mapM (pieceM write t)
      return (filled os pieces ++ (t.cut read).rest,
        changes os pieces) := by
  rw [replaceOutsideM,
    replaceFromM_eq write (isTallied_cut hSteady hFrames t)]
  simp only [bind_assoc, pure_bind]

------------------------------------------------------------
-- Calls Written Down
------------------------------------------------------------

/- A function that writes down what it is called for. -/
def logged
    (write : Occurrence α → Text)
    (o : Occurrence α) : StateM (List (Occurrence α)) Text := do
  modify (· ++ [o])
  return write o

/- What comes second starts in the state that is left. -/
theorem run_bind_of_run
    {β γ : Type}
    {first : StateM σ β}
    {b : β}
    {s s' : σ}
    (hFirst : first.run s = (b, s'))
    (second : β → StateM σ γ) :
    (first >>= second).run s = (second b).run s' := by
  rw [StateT.run_bind, hFirst]
  rfl

theorem run_pieceM_logged
    (write : Occurrence α → Text)
    (t : Text)
    (o : Occurrence α)
    (log : List (Occurrence α)) :
    (pieceM (logged write) t o).run log =
      (rewritten write t o,
        log ++ [o].filter (startsOutside t)) := by
  rw [pieceM_eq, rewritten, List.filter_singleton]
  cases startsOutside t o with
  | true => rfl
  | false =>
      rw [cond_false, List.append_nil]
      rfl

theorem run_mapM_pieceM_logged
    (write : Occurrence α → Text)
    (t : Text)
    (os log : List (Occurrence α)) :
    (os.mapM (pieceM (logged write) t)).run log =
      (os.map (rewritten write t),
        log ++ os.filter (startsOutside t)) := by
  induction os generalizing log with
  | nil =>
      rw [List.filter_nil, List.append_nil]
      rfl
  | cons o os ih =>
      rw [List.mapM_cons,
        run_bind_of_run (run_pieceM_logged write t o log),
        run_bind_of_run (ih _), List.append_assoc,
        ← List.filter_append, List.singleton_append]
      rfl

theorem filled_map
    (os : List (Occurrence α))
    (f : Occurrence α → Text) :
    filled os (os.map f) = os.flatMap fun o => o.gap ++ f o := by
  rw [filled, List.zipWith_map_right, List.zipWith_self,
    List.flatMap_def]

theorem changes_map
    (os : List (Occurrence α))
    (f : Occurrence α → Text) :
    changes os (os.map f) = os.countP fun o => f o ≠ o.covered := by
  have hZip : os.zip (os.map f) = os.map fun o => (o, f o) := by
    rw [List.zip_map_right, List.zip_eq_zipWith,
      List.zipWith_self, List.map_map]
    rfl
  rw [changes, hZip, List.countP_map]
  rfl

/-
  A function that writes down its calls writes down the
  occurrences outside of code, and makes the same text.
-/
theorem run_replaceOutsideM_logged
    {read : Reader α}
    (hSteady : read.Steady)
    (hFrames : Frames read)
    (write : Occurrence α → Text)
    (t : Text) :
    (replaceOutsideM read (logged write) t).run [] =
      (replaceOutside read write t, outside read t) := by
  rw [replaceOutsideM_eq hSteady hFrames]
  dsimp only
  rw [run_bind_of_run (run_mapM_pieceM_logged write t _ []),
    filled_map, changes_map, replaceOutside,
    replaceFrom_eq write (isTallied_cut hSteady hFrames t)]
  rfl

------------------------------------------------------------
-- Links And Placeholders
------------------------------------------------------------

/-
  Finds are replaced as the fences before them tell. The
  text is cut at the finds from left to right, each stands
  behind the text before it, and those are outside of code
  whose text before them holds an even number of fences.

  These are replaced and no others, the rest of the text
  stays, and the number is that of those which come out
  different. A function with a state is called for these, in
  their order.
-/
structure ReplacesByPrefixes (read : Reader α) : Prop where
  cut : ∀ t : Text,
    Text.CutsTo read t (t.cut read).occurrences (t.cut read).rest
  place : ∀ t : Text, ∀ o ∈ (t.cut read).occurrences,
    o.textBefore t ++ (o.covered ++ o.after) = t
  outer : ∀ t : Text,
    outside read t =
      (t.cut read).occurrences.filter fun o =>
        Text.countOf mark (o.textBefore t) % 2 = 0
  kept : ∀ t : Text,
    (t.cut read).replace Occurrence.covered = t
  text : ∀ (write : Occurrence α → Text) (t : Text),
    (replaceOutside read write t).1 =
      (t.cut read).replace fun o =>
        if Text.countOf mark (o.textBefore t) % 2 = 0 then write o
        else o.covered
  changed : ∀ (write : Occurrence α → Text) (t : Text),
    (replaceOutside read write t).2 =
      (outside read t).countP fun o => write o ≠ o.covered
  calls : ∀ (write : Occurrence α → Text) (t : Text),
    (replaceOutsideM read (logged write) t).run [] =
      (replaceOutside read write t, outside read t)
  stateful :
    ∀ {σ : Type} (write : Occurrence α → StateM σ Text) (t : Text),
      replaceOutsideM read write t = do
        let os := (t.cut read).occurrences
        let pieces ← os.mapM (pieceM write t)
        return (filled os pieces ++ (t.cut read).rest,
          changes os pieces)

theorem replacesByPrefixes
    {read : Reader α}
    (hSteady : read.Steady)
    (hFrames : Frames read) : ReplacesByPrefixes read where
  cut := Text.cutsTo_cut hSteady
  place t o ho := by
    rcases (Text.cutsTo_cut hSteady t).suffix ho with ⟨p, hp⟩
    conv_lhs => rw [← hp]
    rw [Occurrence.textBefore_append, hp]
  outer t := by
    rw [outside]
    simp only [← startsOutside_iff, Bool.decide_eq_true]
  kept t := (Text.cutsTo_cut hSteady t).text_eq.symm
  text write t := by
    simp only [← startsOutside_iff]
    exact replaceOutside_eq hSteady hFrames write t
  changed := changed_replaceOutside hSteady hFrames
  calls := run_replaceOutsideM_logged hSteady hFrames
  stateful := replaceOutsideM_eq hSteady hFrames

end Fence

/-
  What a reader finds anywhere is what can be written, where
  it is written.
-/
def Reader.FindsWritten
    {α : Type}
    (read : Reader α)
    (IsWritable : α → Prop)
    (render : α → Text) : Prop :=
  ∀ before t v x,
    read before t = some (v, x) ↔
      IsWritable v ∧ x = render v ∧ x <+: t

theorem Reader.findsWritten
    {α : Type}
    {read? : Text → Option α}
    {IsWritable : α → Prop}
    {render : α → Text}
    (hRead :
      ∀ t v, read? t = some v ↔ IsWritable v ∧ render v <+: t) :
    Reader.FindsWritten
      (fun _ t => (read? t).map fun v => (v, render v))
      IsWritable render := by
  intro before t v x
  rw [Option.map_eq_some_iff]
  constructor
  · rintro ⟨v, hv, ⟨⟩⟩
    rcases (hRead t v).mp hv with ⟨hWritable, hText⟩
    exact ⟨hWritable, rfl, hText⟩
  · rintro ⟨hWritable, rfl, hText⟩
    exact ⟨v, (hRead t v).mpr ⟨hWritable, hText⟩, rfl⟩

namespace Fence

/-
  Links and placeholders are found where they are written,
  and they are replaced as the fences before them tell.
-/
theorem replaceOutside_by_prefixes :
    (Link.reader.FindsWritten Link.IsWritable Link.render ∧
      ReplacesByPrefixes Link.reader) ∧
    Placeholder.reader.FindsWritten Placeholder.IsWritable
        Placeholder.render ∧
      ReplacesByPrefixes Placeholder.reader :=
  ⟨⟨Reader.findsWritten fun _ _ => Link.read?_eq_some_iff,
      replacesByPrefixes Link.reader_steady Link.reader_frames⟩,
    Reader.findsWritten fun _ _ => Placeholder.read?_eq_some_iff,
    replacesByPrefixes Placeholder.reader_steady
      Placeholder.reader_frames⟩

/- A fence in a label makes the link behind it code. -/
example :
    replaceOutside Link.reader (fun o => o.value.label)
        "[a](b) [\x60\x60\x60](c) [d](e)".toList =
      ("a \x60\x60\x60 [d](e)".toList, 2) := by
  decide +kernel

end Fence

end SourceDocs
