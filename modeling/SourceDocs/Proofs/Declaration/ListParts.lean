import Mathlib.Data.List.Basic
import SourceDocs.Declaration.Brackets
import SourceDocs.Proofs.Declaration.Drafts

/-
  Lists that are split at the commas outside of brackets.

  Whether a comma parts a list shows from how many brackets
  are open before it. So a text whose commas are all enclosed
  is passed over, and a list is split into what its members
  are split into if each of them closes its brackets.

  Key definitions include:
    * `SourceDocs.Text.depthAfter`
    * `SourceDocs.Text.BehindCommas`
    * `SourceDocs.Text.IsEnclosed`
    * `SourceDocs.Text.IsPlain`

  Main results:
    * `SourceDocs.Text.splitFrom_append_comma`
    * `SourceDocs.Text.splitFrom_append_of_isEnclosed`
    * `SourceDocs.Text.splitTopLevel_join`
-/

------------------------------------------------------------
-- Open Brackets
------------------------------------------------------------

namespace SourceDocs

namespace Text

/- How many brackets are open behind one more character. -/
def stepDepth
    (depth : Nat)
    (c : Char) : Nat :=
  if isOpening c then depth + 1
  else if isClosing c then depth - 1
  else depth

/-
  How many brackets are open behind a text. A bracket that
  closes none does not count.
-/
def depthAfter
    (depth : Nat)
    (t : Text) : Nat :=
  t.foldl stepDepth depth

@[simp] theorem depthAfter_nil (depth : Nat) :
    depthAfter depth [] = depth := rfl

@[simp] theorem depthAfter_cons
    (depth : Nat)
    (c : Char)
    (t : Text) :
    depthAfter depth (c :: t) = depthAfter (stepDepth depth c) t :=
  rfl

theorem depthAfter_append
    (depth : Nat)
    (t u : Text) :
    depthAfter depth (t ++ u) = depthAfter (depthAfter depth t) u :=
  List.foldl_append

/-
  Whether something holds of what stands behind each comma
  that parts a text, where `depth` brackets are open before.
-/
def BehindCommas
    (P : Text → Prop)
    (depth : Nat)
    (t : Text) : Prop :=
  ∀ p q, t = p ++ ',' :: q → depthAfter depth p = 0 → P q

theorem behindCommas_cons_iff
    {P : Text → Prop}
    {depth : Nat}
    {c : Char}
    {t : Text} :
    BehindCommas P depth (c :: t) ↔
      (c = ',' → depth = 0 → P t) ∧
        BehindCommas P (stepDepth depth c) t := by
  constructor
  · intro h
    refine ⟨?_, fun p q hEq => h (c :: p) q (by rw [hEq]; rfl)⟩
    rintro rfl
    exact h [] t rfl
  · rintro ⟨hHead, hTail⟩ p q hEq
    cases p with
    | nil =>
        rcases List.cons.inj hEq with ⟨hComma, rfl⟩
        exact hHead hComma
    | cons d p =>
        rcases List.cons.inj hEq with ⟨rfl, hRest⟩
        exact hTail p q hRest

theorem behindCommas_nil
    (P : Text → Prop)
    (depth : Nat) : BehindCommas P depth [] := by
  intro p q hEq
  simp at hEq

theorem behindCommas_append_iff
    {P : Text → Prop}
    {depth : Nat}
    {t u : Text} :
    BehindCommas P depth (t ++ u) ↔
      BehindCommas (fun q => P (q ++ u)) depth t ∧
        BehindCommas P (depthAfter depth t) u := by
  induction t generalizing depth with
  | nil =>
      exact (and_iff_right (behindCommas_nil _ depth)).symm
  | cons c t ih =>
      rw [List.cons_append, behindCommas_cons_iff,
        behindCommas_cons_iff, ih, depthAfter_cons, and_assoc]

/- Whether no comma parts a text. -/
def IsEnclosed : Nat → Text → Prop :=
  BehindCommas fun _ => False

------------------------------------------------------------
-- Steps Of The Split
------------------------------------------------------------

/- A comma parts a list, or a character does not. -/
theorem comma_cases
    (depth : Nat)
    (c : Char) :
    (c = ',' ∧ depth = 0) ∨ (c = ',' → depth ≠ 0) := by
  by_cases hDepth : depth = 0
  · by_cases hComma : c = ','
    · exact Or.inl ⟨hComma, hDepth⟩
    · exact Or.inr fun h => absurd h hComma
  · exact Or.inr fun _ => hDepth

theorem splitFrom_comma
    (part t : Text) :
    splitFrom 0 part (',' :: t) =
      part.reverse :: splitTopLevel t := by
  simp [splitFrom, isOpening, isClosing, splitTopLevel]

theorem splitFrom_cons
    {depth : Nat}
    {c : Char}
    (hc : c = ',' → depth ≠ 0)
    (part t : Text) :
    splitFrom depth part (c :: t) =
      splitFrom (stepDepth depth c) (c :: part) t := by
  rw [splitFrom, stepDepth]
  split_ifs with hOpening hClosing hComma
  · rfl
  · rfl
  · exact absurd hComma.2 (hc hComma.1)
  · rfl

/- A list has a part at least. -/
theorem exists_splitFrom_eq_cons
    (depth : Nat)
    (part t : Text) :
    ∃ first rest, splitFrom depth part t = first :: rest := by
  induction t generalizing depth part with
  | nil => exact ⟨part.reverse, [], rfl⟩
  | cons c t ih =>
      rcases comma_cases depth c with ⟨rfl, rfl⟩ | hc
      · exact ⟨_, _, splitFrom_comma part t⟩
      · rw [splitFrom_cons hc]
        exact ih _ _

/- What was read before goes to the front of the first part. -/
theorem splitFrom_eq_modifyHead
    (depth : Nat)
    (part t : Text) :
    splitFrom depth part t =
      (splitFrom depth [] t).modifyHead (part.reverse ++ ·) := by
  induction t generalizing depth part with
  | nil => simp [splitFrom]
  | cons c t ih =>
      rcases comma_cases depth c with ⟨rfl, rfl⟩ | hc
      · simp [splitFrom_comma]
      · rw [splitFrom_cons hc, splitFrom_cons hc,
          ih _ (c :: part), ih _ [c], List.modifyHead_modifyHead]
        simp [Function.comp_def]

/- A list goes on behind a comma that no bracket encloses. -/
theorem splitFrom_append_comma
    {depth : Nat}
    {t : Text}
    (hDepth : depthAfter depth t = 0)
    (part u : Text) :
    splitFrom depth part (t ++ ',' :: u) =
      splitFrom depth part t ++ splitTopLevel u := by
  induction t generalizing depth part with
  | nil =>
      rw [depthAfter_nil] at hDepth
      rw [hDepth, List.nil_append, splitFrom_comma]
      rfl
  | cons c t ih =>
      rw [depthAfter_cons] at hDepth
      rw [List.cons_append]
      rcases comma_cases depth c with ⟨rfl, rfl⟩ | hc
      · change depthAfter 0 t = 0 at hDepth
        rw [splitFrom_comma, splitFrom_comma, splitTopLevel,
          ih hDepth, List.cons_append]
        rfl
      · rw [splitFrom_cons hc, splitFrom_cons hc, ih hDepth]

/- A text whose commas are all enclosed is passed over. -/
theorem splitFrom_append_of_isEnclosed
    {depth : Nat}
    {t : Text}
    (h : IsEnclosed depth t)
    (part u : Text) :
    splitFrom depth part (t ++ u) =
      splitFrom (depthAfter depth t) (t.reverse ++ part) u := by
  induction t generalizing depth part with
  | nil => rfl
  | cons c t ih =>
      rcases behindCommas_cons_iff.mp h with ⟨hc, hTail⟩
      rw [List.cons_append, splitFrom_cons hc, ih hTail,
        List.reverse_cons, List.append_assoc,
        List.singleton_append, depthAfter_cons]

/- If its brackets are closed, it only lengthens a part. -/
theorem splitTopLevel_append
    {t : Text}
    (hEnclosed : IsEnclosed 0 t)
    (hClosed : depthAfter 0 t = 0)
    (u : Text) :
    splitTopLevel (t ++ u) =
      (splitTopLevel u).modifyHead (t ++ ·) := by
  rw [splitTopLevel, splitFrom_append_of_isEnclosed hEnclosed,
    hClosed, splitFrom_eq_modifyHead, List.append_nil,
    List.reverse_reverse]
  rfl

/- On its own, it is a single part. -/
theorem splitTopLevel_of_isEnclosed
    {t : Text}
    (h : IsEnclosed 0 t) : splitTopLevel t = [t] := by
  have hSplit := splitFrom_append_of_isEnclosed h [] []
  rw [List.append_nil, List.append_nil] at hSplit
  rw [splitTopLevel, hSplit, splitFrom, List.reverse_reverse]

------------------------------------------------------------
-- Joined Lists
------------------------------------------------------------

/- What lists are written with, besides their parts. -/
def separator : Text :=
  ", ".toList

theorem join_cons_cons
    (mark t t' : Text)
    (ts : List Text) :
    join mark (t :: t' :: ts) =
      t ++ mark ++ join mark (t' :: ts) := by
  rw [join, List.intercalate_cons_cons]
  rfl

theorem splitFrom_space
    (t : Text) : splitFrom 0 [' '] t = splitTopLevel (' ' :: t) := by
  rw [splitTopLevel, splitFrom_cons (by decide)]
  rfl

/-
  A joined list is split into what its members are split
  into, each but the first with a space in front.
-/
theorem splitFrom_join
    {t : Text}
    {ts : List Text}
    (hClosed : ∀ u ∈ (t :: ts).dropLast, depthAfter 0 u = 0)
    (part : Text) :
    splitFrom 0 part (join separator (t :: ts)) =
      splitFrom 0 part t ++
        ts.flatMap fun u => splitTopLevel (' ' :: u) := by
  induction ts generalizing t part with
  | nil =>
      rw [join, List.intercalate_singleton, List.flatMap_nil,
        List.append_nil]
  | cons t' ts ih =>
      rw [List.dropLast_cons_cons, List.forall_mem_cons] at hClosed
      have hText :
          join separator (t :: t' :: ts) =
            t ++ ',' :: (' ' :: join separator (t' :: ts)) := by
        rw [join_cons_cons, List.append_assoc]
        rfl
      rw [hText, splitFrom_append_comma hClosed.1,
        ← splitFrom_space, ih hClosed.2, splitFrom_space,
        List.flatMap_cons]

theorem splitTopLevel_join
    {t : Text}
    {ts : List Text}
    (hClosed : ∀ u ∈ (t :: ts).dropLast, depthAfter 0 u = 0) :
    splitTopLevel (join separator (t :: ts)) =
      splitTopLevel t ++
        ts.flatMap fun u => splitTopLevel (' ' :: u) :=
  splitFrom_join hClosed []

------------------------------------------------------------
-- Plain Texts
------------------------------------------------------------

/- A text without brackets and commas. -/
def IsPlain (t : Text) : Prop :=
  ∀ c ∈ t, isOpening c = false ∧ isClosing c = false ∧ c ≠ ','

instance (t : Text) : Decidable (IsPlain t) :=
  decidableForallMem _ t

theorem isPlain_space : IsPlain [' '] := by
  decide

theorem IsPlain.append
    {t u : Text}
    (ht : IsPlain t)
    (hu : IsPlain u) : IsPlain (t ++ u) := by
  intro c hc
  rcases List.mem_append.mp hc with hc | hc
  · exact ht c hc
  · exact hu c hc

theorem IsPlain.stepDepth_eq
    {t : Text}
    (h : IsPlain t)
    {c : Char}
    (hc : c ∈ t)
    (depth : Nat) : stepDepth depth c = depth := by
  rw [stepDepth, (h c hc).1, (h c hc).2.1]
  rfl

theorem IsPlain.depthAfter_eq
    {t : Text}
    (h : IsPlain t)
    (depth : Nat) : depthAfter depth t = depth := by
  induction t with
  | nil => rfl
  | cons c t ih =>
      rw [depthAfter_cons, h.stepDepth_eq List.mem_cons_self]
      exact ih fun d hd => h d (List.mem_cons_of_mem c hd)

theorem IsPlain.isEnclosed
    {t : Text}
    (h : IsPlain t)
    (depth : Nat) : IsEnclosed depth t := by
  rintro p q rfl _
  exact (h ',' (by simp)).2.2 rfl

/- The signs that a plain text does not hold. -/
def listSigns : Text :=
  "<>()[],".toList

theorem isPlain_of_forall
    {p : Char → Bool}
    {t : Text}
    (hSigns : ∀ d ∈ listSigns, p d = false)
    (ht : ∀ c ∈ t, p c = true) : IsPlain t := by
  intro c hc
  have hNe : ∀ d ∈ listSigns, c ≠ d := by
    rintro d hd rfl
    have hNot := hSigns c hd
    rw [ht c hc] at hNot
    cases hNot
  refine ⟨?_, ?_, hNe ',' (by decide)⟩
  · simp [isOpening, hNe '<' (by decide), hNe '(' (by decide),
      hNe '[' (by decide)]
  · simp [isClosing, hNe '>' (by decide), hNe ')' (by decide),
      hNe ']' (by decide)]

theorem isPlain_of_isOneWord
    {w : Text}
    (hw : IsOneWord w) : IsPlain w :=
  isPlain_of_forall (by decide) hw.word

theorem stepDepth_of_isBlank
    {c : Char}
    (hc : isBlank c = true)
    (depth : Nat) : stepDepth depth c = depth := by
  have hPlain : IsPlain [c] :=
    isPlain_of_forall (p := isBlank) (by decide) (by simpa using hc)
  exact hPlain.stepDepth_eq List.mem_cons_self depth

/- Plain texts are the parts of the list they make. -/
theorem splitTopLevel_join_of_isPlain
    {t : Text}
    {ts : List Text}
    (hPlain : ∀ u ∈ t :: ts, IsPlain u) :
    splitTopLevel (join separator (t :: ts)) =
      t :: ts.map (' ' :: ·) := by
  have hRest :
      (ts.flatMap fun u => splitTopLevel (' ' :: u)) =
        ts.map (' ' :: ·) := by
    rw [List.map_eq_flatMap]
    refine List.flatMap_congr fun u hu => ?_
    have hu := hPlain u (List.mem_cons_of_mem t hu)
    exact splitTopLevel_of_isEnclosed
      ((isPlain_space.append hu).isEnclosed 0)
  have hFirst :=
    (hPlain t List.mem_cons_self).isEnclosed 0
  rw [splitTopLevel_join, splitTopLevel_of_isEnclosed hFirst,
    hRest, List.singleton_append]
  intro u hu
  exact (hPlain u (List.dropLast_subset _ hu)).depthAfter_eq 0

end Text

end SourceDocs
