import SourceDocs.Proofs.Text.Words
import SourceDocs.Text.Occurrence

/-
  Reading a text from its front, line by line.

  What a cut finds is known piece by piece: a piece is taken
  off the front, either as one that is read or as one where
  nothing starts, and the line of the rest is that of the
  piece and the line ends in it. A reader that looks for
  some words starts nowhere in a piece without them.

  Key definitions include:
    * `SourceDocs.Text.sights`
    * `SourceDocs.Reader.Heeds`
    * `SourceDocs.Text.Quiet`

  Main results:
    * `SourceDocs.Text.sights_of_found`
    * `SourceDocs.Text.sights_of_quiet`
    * `SourceDocs.Text.sights_of_unread`
-/

------------------------------------------------------------
-- Occurrences On Lines
------------------------------------------------------------

namespace SourceDocs

/- An occurrence without the text in front of it. -/
def Occurrence.bare
    {α : Type}
    (o : Occurrence α) : Occurrence α :=
  { o with gap := [] }

/-
  A reader starts only where a word starts that is one of
  `ws`.
-/
def Reader.Heeds
    {α : Type}
    (read : Reader α)
    (ws : List Text) : Prop :=
  ∀ before t v x, read before t = some (v, x) →
    atWordStart before = true ∧ t.takeWhile isWord ∈ ws

namespace Text

variable {α : Type}
variable {read : Reader α}
variable {before : Option Char}
variable {line : Nat}

/-
  The occurrences in a text behind a character, each with
  the line that it starts on.
-/
def sights
    (read : Reader α)
    (before : Option Char)
    (line : Nat)
    (t : Text) : List (Nat × Occurrence α) :=
  (Cut.numberedFrom line
    (cutFrom read before 0 [] t).occurrences).map
      fun (n, o) => (n, o.bare)

@[simp] theorem lineEnds_nil : lineEnds [] = 0 := rfl

/- A text without line ends is on one line. -/
theorem lineEnds_eq_zero
    {t : Text}
    (ht : '\n' ∉ t) : lineEnds t = 0 :=
  List.count_eq_zero.mpr ht

theorem lineEnds_append (t u : Text) :
    lineEnds (t ++ u) = lineEnds t + lineEnds u :=
  List.count_append

theorem lineEnds_cons (c : Char) (t : Text) :
    lineEnds (c :: t) = lineEnds [c] + lineEnds t :=
  lineEnds_append [c] t

theorem lineEnds_reverse (t : Text) :
    lineEnds t.reverse = lineEnds t :=
  List.count_reverse

/- A gap only counts with the line ends in it. -/
theorem numberedFrom_gap
    (line skip : Nat)
    (gap t : Text) :
    (Cut.numberedFrom line
        (cutFrom read before skip gap t).occurrences).map
          (fun (n, o) => (n, o.bare)) =
      (Cut.numberedFrom (line + lineEnds gap)
        (cutFrom read before skip [] t).occurrences).map
          (fun (n, o) => (n, o.bare)) := by
  induction t generalizing before line skip gap with
  | nil => simp [cutFrom, Cut.numberedFrom]
  | cons c cs ih =>
      cases skip with
      | succ skip =>
          rw [cutFrom, cutFrom]
          exact ih line skip gap
      | zero =>
          rw [cutFrom.eq_def, cutFrom.eq_def]
          dsimp only
          split
          · next v d ds hRead =>
              simp only [Cut.cons, Cut.numberedFrom,
                List.map_cons, List.reverse_nil, lineEnds_nil,
                lineEnds_reverse, Nat.add_zero]
              rfl
          · rw [ih line 0 (c :: gap), ih _ 0 [c],
              lineEnds_cons, Nat.add_assoc,
              Nat.add_comm (lineEnds [c])]

@[simp] theorem sights_nil :
    sights read before line [] = [] := rfl

/- Where nothing is read, a character is passed over. -/
theorem sights_cons
    {c : Char}
    {cs : Text}
    (hNone : read before (c :: cs) = none) :
    sights read before line (c :: cs) =
      sights read (some c) (line + lineEnds [c]) cs := by
  rw [sights, cutFrom, hNone]
  exact numberedFrom_gap line 0 [c] cs

/- What is covered is passed over. -/
theorem cutFrom_length
    (before : Option Char)
    (x u : Text) :
    cutFrom read before x.length [] (x ++ u) =
      cutFrom read (x.getLast?.or before) 0 [] u := by
  induction x generalizing before with
  | nil => rfl
  | cons c x ih =>
      rw [List.length_cons, List.cons_append, cutFrom, ih]
      cases x with
      | nil => rfl
      | cons d x =>
          rw [List.getLast?_cons_cons]
          cases hLast : (d :: x).getLast? with
          | none => simp at hLast
          | some e => rfl

/- What is read comes first, on the line that it starts on. -/
theorem sights_of_found
    {v : α}
    {x u : Text}
    (hCovers : x ≠ [])
    (hRead : read before (x ++ u) = some (v, x)) :
    sights read before line (x ++ u) =
      (line, ⟨[], v, x, u⟩) ::
        sights read x.getLast? (line + lineEnds x) u := by
  cases x with
  | nil => exact absurd rfl hCovers
  | cons c x =>
      have hSkip :
          cutFrom read (some c) x.length [] (x ++ u) = _ :=
        cutFrom_length (some c) x u
      have hLast :
          x.getLast?.or (some c) = (c :: x).getLast? := by
        cases x with
        | nil => rfl
        | cons d x =>
            rw [List.getLast?_cons_cons]
            cases hLast : (d :: x).getLast? with
            | none => simp at hLast
            | some e => rfl
      rw [hLast] at hSkip
      rw [List.cons_append] at hRead ⊢
      rw [sights, cutFrom.eq_def]
      dsimp only
      rw [hRead]
      dsimp only
      rw [hSkip, List.drop_left, Cut.cons]
      rfl

------------------------------------------------------------
-- Quiet Stretches
------------------------------------------------------------

/- None of some words stands in a text. -/
def Quiet (ws : List Text) (t : Text) : Prop :=
  ∀ w ∈ wordRuns t, w ∉ ws

instance (ws : List Text) (t : Text) : Decidable (Quiet ws t) :=
  inferInstanceAs (Decidable (∀ w ∈ wordRuns t, w ∉ ws))

variable {ws : List Text}
variable {c : Char}

theorem quiet_of_word
    {w : Text}
    (hw : ∀ c ∈ w, isWord c = true)
    (hNot : w ∉ ws) : Quiet ws w := by
  intro v hv
  rw [wordRuns_of_word hw] at hv
  rwa [List.mem_singleton.mp hv]

theorem Quiet.append_cons
    {t u : Text}
    (ht : Quiet ws t)
    (hu : Quiet ws u)
    (hSign : isWord c = false) : Quiet ws (t ++ c :: u) := by
  intro w hw
  rw [wordRuns_append_cons hSign] at hw
  rcases List.mem_append.mp hw with hw | hw
  · exact ht w hw
  · exact hu w hw

/-
  A reader passes over text without the words that it looks
  for, up to a sign. The first stretch does not count where
  it goes on with a word.
-/
theorem sights_of_stretches
    (hHeeds : read.Heeds ws)
    (hSign : isWord c = false)
    (t u : Text)
    (hQuiet :
      ∀ w,
        (if atWordStart before then w ∈ wordRuns t
          else w ∈ (wordRuns t).tail) → w ∉ ws) :
    sights read before line (t ++ c :: u) =
      sights read (some c) (line + lineEnds (t ++ [c])) u := by
  have hNone :
      ∀ (before : Option Char) (t : Text),
        (atWordStart before = true →
          t.takeWhile isWord ∉ ws) →
        read before (t ++ c :: u) = none := by
    intro before t hWord
    cases hRead : read before (t ++ c :: u) with
    | none => rfl
    | some found =>
        rcases hHeeds _ _ _ _ hRead with ⟨hStart, hIn⟩
        rw [takeWhile_append_cons hSign] at hIn
        exact absurd hIn (hWord hStart)
  have hHead :
      ∀ t : Text, t.takeWhile isWord ∈ wordRuns t :=
    fun t => List.mem_of_mem_head? (head?_wordRuns t)
  induction t generalizing before line with
  | nil =>
      refine sights_cons (hNone before [] fun hStart => ?_)
      apply hQuiet
      rw [if_pos hStart]
      exact hHead []
  | cons d t ih =>
      have hHere : read before (d :: t ++ c :: u) = none := by
        refine hNone before (d :: t) fun hStart => ?_
        apply hQuiet
        rw [if_pos hStart]
        exact hHead (d :: t)
      have hRest : ∀ w ∈ (wordRuns (d :: t)).tail, w ∉ ws := by
        intro w hw
        apply hQuiet
        split_ifs
        · exact List.mem_of_mem_tail hw
        · exact hw
      rw [List.cons_append] at hHere ⊢
      rw [sights_cons hHere, ih]
      · rw [List.cons_append, lineEnds_cons d (t ++ [c]),
          Nat.add_assoc]
      · intro w hw
        apply hRest
        rw [wordRuns_cons]
        cases hd : isWord d with
        | true =>
            rw [if_neg (by simp [atWordStart, hd])] at hw
            rw [if_pos rfl, List.tail_modifyHead]
            exact hw
        | false =>
            rw [if_pos (by simp [atWordStart, hd])] at hw
            simpa using hw

theorem sights_of_quiet
    {t : Text}
    (hHeeds : read.Heeds ws)
    (hSign : isWord c = false)
    (hQuiet : Quiet ws t)
    (u : Text) :
    sights read before line (t ++ c :: u) =
      sights read (some c) (line + lineEnds (t ++ [c])) u := by
  apply sights_of_stretches hHeeds hSign
  intro w hw
  apply hQuiet
  split_ifs at hw
  · exact hw
  · exact List.mem_of_mem_tail hw

/-
  So it passes over a piece that starts with such a word but
  is not read.
-/
theorem sights_of_unread
    {d : Char}
    {t u : Text}
    (hHeeds : read.Heeds ws)
    (hSign : isWord c = false)
    (hWord : isWord d = true)
    (hNone : read before (d :: (t ++ c :: u)) = none)
    (hQuiet : ∀ w ∈ (wordRuns (d :: t)).tail, w ∉ ws) :
    sights read before line (d :: (t ++ c :: u)) =
      sights read (some c) (line + lineEnds (d :: (t ++ [c]))) u := by
  rw [sights_cons hNone, sights_of_stretches hHeeds hSign t u]
  · rw [lineEnds_cons d (t ++ [c]), Nat.add_assoc]
  · intro w hw
    rw [if_neg (by simp [atWordStart, hWord])] at hw
    apply hQuiet
    rwa [tail_wordRuns_cons hWord]

/- Nothing is read in lines without such words. -/
theorem sights_ofLines_of_quiet
    {ls : List Text}
    (hHeeds : read.Heeds ws)
    (hQuiet : ∀ l ∈ ls, Quiet ws l) :
    sights read before line (ofLines ls) = [] := by
  induction ls generalizing before line with
  | nil => rfl
  | cons l ls ih =>
      rw [List.forall_mem_cons] at hQuiet
      have hText :
          ofLines (l :: ls) = l ++ '\n' :: ofLines ls := by
        simp [ofLines, Text.line]
      rw [hText, sights_of_quiet hHeeds (by decide) hQuiet.1]
      exact ih hQuiet.2

/- What makes no use of gaps is known from the sights. -/
theorem filterMap_numbered
    {β : Type}
    (f : Nat → Occurrence α → Option β)
    (hBare : ∀ n o, f n o = f n o.bare)
    (t : Text)
    (line : Nat) :
    ((t.cut read).numbered line).filterMap (fun (n, o) => f n o) =
      (sights read none line t).filterMap (fun (n, o) => f n o) := by
  rw [sights, List.filterMap_map, Cut.numbered, cut]
  congr 1
  funext ⟨n, o⟩
  exact hBare n o

theorem map_numbered
    {β : Type}
    (f : Nat → Occurrence α → β)
    (hBare : ∀ n o, f n o = f n o.bare)
    (t : Text)
    (line : Nat) :
    ((t.cut read).numbered line).map (fun (n, o) => f n o) =
      (sights read none line t).map (fun (n, o) => f n o) := by
  rw [sights, List.map_map, Cut.numbered, cut]
  congr 1
  funext ⟨n, o⟩
  exact hBare n o

/- Nothing is found where there are no sights. -/
theorem findFirst?_eq_none
    {t : Text}
    (h : sights read none 1 t = []) :
    t.findFirst? read = none := by
  rw [sights, List.map_eq_nil_iff] at h
  rw [findFirst?, cut]
  cases hCut : (cutFrom read none 0 [] t).occurrences with
  | nil => rfl
  | cons o os =>
      rw [hCut, Cut.numberedFrom] at h
      cases h

end Text

end SourceDocs
