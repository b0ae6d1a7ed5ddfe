import Mathlib.Data.List.TakeWhile
import SourceDocs.Text.Basic

/-
  Stretches of a text up to a mark, from the front or from
  the end, its parts between marks, what follows a fixed
  front, and lengths in octets.

  Main results:
    * `SourceDocs.Text.takeWhile_ne_append`
    * `SourceDocs.Text.append_mark_inj`
    * `SourceDocs.Text.afterLast_append`
    * `SourceDocs.Text.of_mem_splitOn`
    * `SourceDocs.Text.after?_eq_some_iff`
-/

------------------------------------------------------------
-- Stretches
------------------------------------------------------------

namespace SourceDocs

namespace Text

/- A text up to a mark that it does not hold before. -/
theorem takeWhile_ne_append
    {mark : Char}
    {a b : Text}
    (ha : mark ∉ a) :
    (a ++ mark :: b).takeWhile (· ≠ mark) = a := by
  rw [List.takeWhile_append_of_pos]
  · simp
  · intro c hc
    simpa using fun hEq : c = mark => ha (hEq ▸ hc)

theorem dropWhile_ne_append
    {mark : Char}
    {a b : Text}
    (ha : mark ∉ a) :
    (a ++ mark :: b).dropWhile (· ≠ mark) = mark :: b := by
  rw [List.dropWhile_append_of_pos]
  · simp
  · intro c hc
    simpa using fun hEq : c = mark => ha (hEq ▸ hc)

/- Without the mark nothing of the text is left. -/
theorem dropWhile_ne_eq_nil
    {mark : Char}
    {t : Text}
    (ht : mark ∉ t) : t.dropWhile (· ≠ mark) = [] := by
  rw [List.dropWhile_eq_nil_iff]
  intro c hc
  simpa using fun hEq : c = mark => ht (hEq ▸ hc)

/- A stretch that runs up to a mark does not hold it. -/
theorem not_mem_takeWhile_ne
    (mark : Char)
    (t : Text) : mark ∉ t.takeWhile (· ≠ mark) := by
  intro h
  simpa using List.mem_takeWhile_imp h

/- What follows a stretch starts with the mark. -/
theorem eq_of_dropWhile_ne
    {mark c : Char}
    {t u : Text}
    (h : t.dropWhile (· ≠ mark) = c :: u) :
    c = mark ∧ t = t.takeWhile (· ≠ mark) ++ mark :: u := by
  induction t with
  | nil => simp at h
  | cons d t ih =>
      by_cases hd : d = mark
      · subst hd
        have hParts : d = c ∧ t = u := by simpa using h
        rcases hParts with ⟨rfl, rfl⟩
        simp
      · rw [List.dropWhile_cons_of_pos (by simpa using hd)] at h
        rw [List.takeWhile_cons_of_pos (by simpa using hd),
          List.cons_append]
        exact ⟨(ih h).1, congrArg (d :: ·) (ih h).2⟩

/- Texts that are equal are parted by a mark in one way. -/
theorem append_mark_inj
    {mark : Char}
    {a b t u : Text}
    (ha : mark ∉ a)
    (hb : mark ∉ b)
    (h : a ++ mark :: t = b ++ mark :: u) :
    a = b ∧ t = u := by
  have hFront := congrArg (List.takeWhile (· ≠ mark)) h
  rw [takeWhile_ne_append ha, takeWhile_ne_append hb] at hFront
  subst hFront
  exact ⟨rfl, List.tail_eq_of_cons_eq (List.append_cancel_left h)⟩

/- Where the first mark in two texts in a row stands. -/
theorem append_mark_cases
    {mark : Char}
    {a b t u : Text}
    (ht : mark ∉ t)
    (h : a ++ b = t ++ mark :: u) :
    (∃ a', a = t ++ mark :: a' ∧ u = a' ++ b) ∨
      ∃ t', t = a ++ t' ∧ b = t' ++ mark :: u := by
  rcases List.append_eq_append_iff.mp h with
    ⟨t', rfl, hb⟩ | ⟨c, rfl, hc⟩
  · exact Or.inr ⟨t', rfl, hb⟩
  · cases c with
    | nil => exact Or.inr ⟨[], by simp, hc.symm⟩
    | cons d c =>
        rw [List.cons_append, List.cons.injEq] at hc
        rcases hc with ⟨rfl, rfl⟩
        exact Or.inl ⟨c, rfl, rfl⟩

/- What does not hold the mark stands on one side of it. -/
theorem infix_append_cons_cases
    {mark : Char}
    {m a b : Text}
    (hm : mark ∉ m)
    (h : m <:+: a ++ mark :: b) : m <:+: a ∨ m <:+: b := by
  rcases h with ⟨p, q, hEq⟩
  rcases List.append_eq_append_iff.mp hEq with
    ⟨q', rfl, -⟩ | ⟨x, hLeft, hRight⟩
  · exact Or.inl ⟨p, q', rfl⟩
  cases x with
  | nil =>
      rw [List.append_nil] at hLeft
      exact Or.inl ⟨p, [], by rw [List.append_nil, hLeft]⟩
  | cons c x =>
      rcases List.cons.inj hRight with ⟨rfl, rfl⟩
      right
      have hEnd : m <:+ a ++ mark :: x := ⟨p, hLeft⟩
      rcases List.suffix_or_suffix_of_suffix hEnd
          (List.suffix_append a (mark :: x)) with hs | hs
      · rcases List.suffix_cons_iff.mp hs with rfl | hs
        · exact absurd List.mem_cons_self hm
        · exact hs.isInfix.trans (List.prefix_append x q).isInfix
      · exact absurd (hs.subset List.mem_cons_self) hm

/- A text starts with a mark only if its front does. -/
theorem head?_append_ne
    {mark : Char}
    {a : Text}
    (hNil : a ≠ [])
    (ha : mark ∉ a)
    (t : Text) : (a ++ t).head? ≠ some mark := by
  rcases List.exists_cons_of_ne_nil hNil with ⟨c, a, rfl⟩
  intro hHead
  cases hHead
  exact ha List.mem_cons_self

/- A text that does not start with a mark loses none. -/
theorem dropWhile_eq_self
    {mark : Char}
    {t : Text}
    (ht : t.head? ≠ some mark) : t.dropWhile (· == mark) = t := by
  cases t with
  | nil => rfl
  | cons c t =>
      have hc : c ≠ mark := by simpa using ht
      exact List.dropWhile_cons_of_neg (by simpa using hc)

/- A run in front is made of its characters. -/
theorem eq_append_of_run?
    {p : Char → Bool}
    {t x u : Text}
    (h : run? p t = some (x, u)) :
    t = x ++ u ∧ ∀ c ∈ x, p c = true := by
  rw [run?] at h
  split_ifs at h with hEmpty
  rcases Prod.mk.inj (Option.some.inj h) with ⟨rfl, rfl⟩
  exact ⟨List.takeWhile_append_dropWhile.symm,
    fun c hc => List.mem_takeWhile_imp hc⟩

/- What follows the last mark does not hold it. -/
theorem not_mem_afterLast
    (mark : Char)
    (t : Text) : mark ∉ afterLast mark t := by
  rw [afterLast, List.mem_reverse]
  exact not_mem_takeWhile_ne mark t.reverse

theorem afterLast_append
    {mark : Char}
    {b : Text}
    (hb : mark ∉ b)
    (a : Text) : afterLast mark (a ++ mark :: b) = b := by
  have hReverse :
      (a ++ mark :: b).reverse =
        b.reverse ++ mark :: a.reverse := by
    simp
  rw [afterLast, hReverse, takeWhile_ne_append (by simpa using hb),
    List.reverse_reverse]

/- Without the mark nothing of the text is left out. -/
theorem afterLast_eq_self
    {mark : Char}
    {t : Text}
    (ht : mark ∉ t) : afterLast mark t = t := by
  rw [afterLast, List.takeWhile_eq_self_iff.mpr,
    List.reverse_reverse]
  intro c hc
  simpa using fun hEq : c = mark =>
    ht (hEq ▸ List.mem_reverse.mp hc)

/- A text ends in what follows its last mark. -/
theorem eq_append_afterLast
    (mark : Char)
    (t : Text) :
    t = afterLast mark t ∨
      ∃ front, t = front ++ mark :: afterLast mark t := by
  by_cases hMem : mark ∈ t.reverse
  · right
    rcases List.eq_append_cons_of_mem hMem with
      ⟨back, front, hEq, hBack⟩
    have hText : t = front.reverse ++ mark :: back.reverse := by
      rw [← t.reverse_reverse, hEq]
      simp
    refine ⟨front.reverse, ?_⟩
    rw [hText, afterLast_append (by simpa using hBack)]
  · left
    rw [afterLast_eq_self (by simpa using hMem)]

/- What stands before a mark makes no difference. -/
theorem afterLast_append_cons
    (mark : Char)
    (a b : Text) :
    afterLast mark (a ++ mark :: b) = afterLast mark b := by
  have hLast := not_mem_afterLast mark b
  rcases eq_append_afterLast mark b with hEq | ⟨front, hEq⟩
  · rw [← hEq] at hLast
    rw [afterLast_append hLast, ← hEq]
  · have hText :
        a ++ mark :: b =
          (a ++ mark :: front) ++ mark :: afterLast mark b := by
      rw [List.append_assoc, List.cons_append, ← hEq]
    rw [hText, afterLast_append hLast]

theorem dropEndWhile_concat_of_pos
    {p : Char → Bool}
    {c : Char}
    (hc : p c = true)
    (t : Text) :
    dropEndWhile p (t ++ [c]) = dropEndWhile p t := by
  simp [dropEndWhile, hc]

theorem dropEndWhile_concat_of_neg
    {p : Char → Bool}
    {c : Char}
    (hc : p c = false)
    (t : Text) : dropEndWhile p (t ++ [c]) = t ++ [c] := by
  simp [dropEndWhile, hc]

------------------------------------------------------------
-- Parts Between Marks
------------------------------------------------------------

/- Parts are made of the characters between marks. -/
theorem of_mem_splitOn
    {mark : Char}
    {t part : Text}
    (hPart : part ∈ t.splitOn mark) :
    ∀ c ∈ part, c ≠ mark ∧ c ∈ t := by
  induction t generalizing part with
  | nil =>
      rw [List.splitOn_nil, List.mem_singleton] at hPart
      simp [hPart]
  | cons d t ih =>
      rw [List.splitOn_cons_eq_if_modifyHead] at hPart
      have hLater :
          part ∈ t.splitOn mark →
            ∀ c ∈ part, c ≠ mark ∧ c ∈ d :: t :=
        fun hPart c hc =>
          ⟨(ih hPart c hc).1,
            List.mem_cons_of_mem d (ih hPart c hc).2⟩
      by_cases hd : d = mark
      · rw [if_pos (by simpa using hd)] at hPart
        rcases List.mem_cons.mp hPart with rfl | hPart
        · simp
        · exact hLater hPart
      · rw [if_neg (by simpa using hd)] at hPart
        rcases List.exists_cons_of_ne_nil
            (List.splitOn_ne_nil mark t) with
          ⟨head, rest, hSplit⟩
        rw [hSplit, List.modifyHead_cons] at hPart
        rcases List.mem_cons.mp hPart with rfl | hPart
        · intro c hc
          rcases List.mem_cons.mp hc with rfl | hc
          · exact ⟨hd, List.mem_cons_self⟩
          · have hHead := ih (hSplit ▸ List.mem_cons_self) c hc
            exact ⟨hHead.1, List.mem_cons_of_mem d hHead.2⟩
        · exact hLater (hSplit ▸ List.mem_cons_of_mem head hPart)

/- What joined texts hold is in one of them or between them. -/
theorem mem_join
    {separator : Text}
    {ts : List Text}
    {c : Char}
    (hc : c ∈ join separator ts) :
    c ∈ separator ∨ ∃ t ∈ ts, c ∈ t := by
  induction ts with
  | nil => cases hc
  | cons t ts ih =>
      cases ts with
      | nil =>
          rw [join, List.intercalate_singleton] at hc
          exact Or.inr ⟨t, List.mem_cons_self, hc⟩
      | cons t' ts =>
          rw [join, List.intercalate_cons_cons, List.mem_append,
            List.mem_append] at hc
          rcases hc with (hc | hc) | hc
          · exact Or.inr ⟨t, List.mem_cons_self, hc⟩
          · exact Or.inl hc
          · rcases ih hc with hc | ⟨t, ht, hc⟩
            · exact Or.inl hc
            · exact Or.inr ⟨t, List.mem_cons_of_mem _ ht, hc⟩

------------------------------------------------------------
-- Lengths
------------------------------------------------------------

@[simp] theorem byteLength_cons
    (c : Char)
    (t : Text) :
    byteLength (c :: t) = c.utf8Size + byteLength t :=
  rfl

theorem byteLength_append
    (t u : Text) :
    byteLength (t ++ u) = byteLength t + byteLength u := by
  induction t with
  | nil => exact (Nat.zero_add _).symm
  | cons c t ih =>
      rw [List.cons_append, byteLength_cons, byteLength_cons, ih,
        Nat.add_assoc]

------------------------------------------------------------
-- Fronts
------------------------------------------------------------

/- What follows a front is the rest of the text. -/
theorem eq_append_of_after?
    {front t u : Text}
    (h : after? front t = some u) : t = front ++ u := by
  induction front generalizing t with
  | nil =>
      rw [after?] at h
      exact Option.some.inj h
  | cons f front ih =>
      cases t with
      | nil => simp [after?] at h
      | cons c t =>
          rw [after?] at h
          split_ifs at h with hEq
          rw [ih h, hEq, List.cons_append]

theorem after?_append
    (front u : Text) : after? front (front ++ u) = some u := by
  induction front with
  | nil => rw [List.nil_append, after?]
  | cons f front ih =>
      rw [List.cons_append, after?, if_pos rfl, ih]

theorem after?_eq_some_iff
    {front t u : Text} :
    after? front t = some u ↔ t = front ++ u := by
  refine ⟨eq_append_of_after?, ?_⟩
  rintro rfl
  exact after?_append front u

/- A text that is cut at a mark has the mark between. -/
theorem eq_append_of_cutAtChar?
    {mark : Char}
    {t a b : Text}
    (h : cutAtChar? mark t = some (a, b)) :
    t = a ++ mark :: b := by
  unfold cutAtChar? at h
  split at h
  · cases h
  · next hDrop =>
      cases h
      exact (eq_of_dropWhile_ne hDrop).2

theorem eq_append_of_cutAtLast?
    {mark : Char → Bool}
    {t a b : Text}
    (h : cutAtLast? mark t = some (a, b)) :
    ∃ c, t = a ++ c :: b := by
  unfold cutAtLast? at h
  split at h
  · cases h
  · next c rest hDrop =>
      cases h
      refine ⟨c, ?_⟩
      rw [← List.reverse_inj, List.reverse_append,
        List.reverse_cons, List.reverse_reverse,
        List.reverse_reverse, List.append_assoc,
        List.singleton_append, ← hDrop,
        List.takeWhile_append_dropWhile]

theorem eq_append_of_cutAt?
    {mark t a b : Text}
    (h : cutAt? mark t = some (a, b)) :
    t = a ++ (mark ++ b) := by
  induction t generalizing a with
  | nil =>
      unfold cutAt? at h
      split_ifs at h with hMark
      cases h
      rw [hMark]
      rfl
  | cons c t ih =>
      unfold cutAt? at h
      split at h
      · next rest hRest =>
          cases h
          rw [List.nil_append]
          exact eq_append_of_after? hRest
      · rcases Option.map_eq_some_iff.mp h with
          ⟨⟨before, rest⟩, hCut, hEq⟩
        cases hEq
        rw [ih hCut, List.cons_append]

end Text

end SourceDocs
