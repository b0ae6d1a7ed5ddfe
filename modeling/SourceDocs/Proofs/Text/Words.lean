import SourceDocs.Proofs.Markdown.Slugs
import SourceDocs.Proofs.Text.Stretches

/-
  Words, and the blanks and signs between them.

  A run of characters ends where the first other one stands.
  Words that blanks part are found again, and so are those
  that any sign parts. Blanks around a text are no words, so
  trimming keeps all of them.

  Key definitions include:
    * `SourceDocs.Text.wordRuns`
    * `SourceDocs.Text.spaced`

  Main results:
    * `SourceDocs.isWord_of_isBlank`
    * `SourceDocs.Text.run_append`
    * `SourceDocs.Text.words_trim`
    * `SourceDocs.Text.words_spaced`
    * `SourceDocs.Text.head?_wordRuns`
-/

------------------------------------------------------------
-- Word Characters
------------------------------------------------------------

namespace SourceDocs

/- No blank is part of a word. -/
theorem isWord_of_isBlank
    {c : Char}
    (hBlank : isBlank c = true) : isWord c = false := by
  have hAll :
      ∀ n ∈ Heading.blankCodes, isWord (Char.ofNat n) = false := by
    decide +kernel
  have hWord := hAll _ (Heading.mem_blankCodes hBlank)
  rwa [Char.ofNat_toNat] at hWord

theorem isBlank_of_isWord
    {c : Char}
    (hWord : isWord c = true) : isBlank c = false := by
  cases hBlank : isBlank c with
  | false => rfl
  | true =>
      rw [isWord_of_isBlank hBlank] at hWord
      cases hWord

theorem isWord_of_isAsciiWord
    {c : Char}
    (hc : isAsciiWord c = true) : isWord c = true := by
  have hAscii : isAscii c = true := by
    simp only [isAsciiWord, isAsciiLetter, isAsciiUpper,
      isAsciiLower, isAsciiDigit, Bool.or_eq_true,
      Bool.and_eq_true, decide_eq_true_eq, beq_iff_eq,
      Char.le_def, UInt32.le_iff_toNat_le] at hc
    simp only [isAscii, decide_eq_true_eq, Char.toNat]
    rcases hc with ((hc | hc) | hc) | rfl
    · exact Nat.lt_of_le_of_lt hc.2 (by decide)
    · exact Nat.lt_of_le_of_lt hc.2 (by decide)
    · exact Nat.lt_of_le_of_lt hc.2 (by decide)
    · decide
  rw [isWord, if_pos hAscii, hc]

theorem isWord_of_isSpaceOrTab
    (c : Char)
    (h : isSpaceOrTab c = true) : isWord c = false := by
  rw [isSpaceOrTab, Bool.or_eq_true, beq_iff_eq, beq_iff_eq] at h
  rcases h with rfl | rfl <;> decide

theorem isSpaceOrTab_of_isWord
    (c : Char)
    (h : isWord c = true) : isSpaceOrTab c = false := by
  cases hSpace : isSpaceOrTab c with
  | false => rfl
  | true =>
      rw [isWord_of_isSpaceOrTab c hSpace] at h
      cases h

namespace Text

------------------------------------------------------------
-- Runs
------------------------------------------------------------

variable {p : Char → Bool}
variable {a u : Text}

/- A run stops where the first other character stands. -/
theorem run_append
    (ha : ∀ c ∈ a, p c = true)
    (hu : ∀ c, u.head? = some c → p c = false) :
    run p (a ++ u) = (a, u) := by
  rw [run, List.takeWhile_append_of_pos ha,
    List.dropWhile_append_of_pos ha]
  cases u with
  | nil => simp
  | cons c u =>
      have hc := hu c rfl
      rw [List.takeWhile_cons_of_neg (by simp [hc]),
        List.dropWhile_cons_of_neg (by simp [hc]),
        List.append_nil]

theorem takeWhile_append_cons
    {c : Char}
    (hc : p c = false)
    (t : Text) :
    (t ++ c :: u).takeWhile p = t.takeWhile p := by
  induction t with
  | nil => simp [hc]
  | cons d t ih =>
      rw [List.cons_append, List.takeWhile_cons,
        List.takeWhile_cons, ih]

theorem run?_append
    (hNil : a ≠ [])
    (ha : ∀ c ∈ a, p c = true)
    (hu : ∀ c, u.head? = some c → p c = false) :
    run? p (a ++ u) = some (a, u) := by
  have hRun := run_append ha hu
  have hFront : (a ++ u).takeWhile p = a :=
    congrArg Prod.fst hRun
  rw [run?, hRun, hFront, if_neg]
  simpa using hNil

/- What is behind a run is none of it. -/
theorem not_of_head?_dropWhile
    {t : Text}
    {c : Char}
    (hc : (t.dropWhile p).head? = some c) : p c = false := by
  have hNot := List.head?_dropWhile_not p t
  rw [hc] at hNot
  simpa using hNot

theorem run?_eq_some_iff
    {t x u : Text} :
    run? p t = some (x, u) ↔
      t = x ++ u ∧ x ≠ [] ∧ (∀ c ∈ x, p c = true) ∧
        ∀ c, u.head? = some c → p c = false := by
  constructor
  · intro h
    rcases eq_append_of_run? h with ⟨hEq, hAll⟩
    rw [run?] at h
    split_ifs at h with hEmpty
    cases h
    exact ⟨hEq, by simpa using hEmpty, hAll,
      fun c hc => not_of_head?_dropWhile hc⟩
  · rintro ⟨rfl, hNil, hAll, hStop⟩
    exact run?_append hNil hAll hStop

theorem run_eq_iff
    {t x u : Text} :
    run p t = (x, u) ↔
      t = x ++ u ∧ (∀ c ∈ x, p c = true) ∧
        ∀ c, u.head? = some c → p c = false := by
  constructor
  · intro h
    cases h
    exact ⟨List.takeWhile_append_dropWhile.symm,
      fun c hc => List.mem_takeWhile_imp hc,
      fun c hc => not_of_head?_dropWhile hc⟩
  · rintro ⟨rfl, hAll, hStop⟩
    exact run_append hAll hStop

/- A run stops at what cannot be part of it. -/
theorem stops_append
    {q : Char → Bool}
    {x : Text}
    (hNil : x ≠ [])
    (hAll : ∀ c ∈ x, q c = true)
    (hPart : ∀ c, q c = true → p c = false)
    (u : Text) :
    ∀ c, (x ++ u).head? = some c → p c = false := by
  intro c hc
  rcases List.exists_cons_of_ne_nil hNil with ⟨d, x, rfl⟩
  cases hc
  exact hPart c (hAll c List.mem_cons_self)

/- Trimming the end takes off the blanks behind a text. -/
theorem trimEnd_append
    {b w : Text}
    (hb : ∀ c ∈ b, isBlank c = true)
    (hLast : ∀ c, w.getLast? = some c → isBlank c = false) :
    trimEnd (w ++ b) = w := by
  have hBack :
      (b.reverse ++ w.reverse).dropWhile isBlank = w.reverse := by
    refine congrArg Prod.snd (run_append (fun c hc => ?_)
      fun c hc => ?_)
    · exact hb c (List.mem_reverse.mp hc)
    · exact hLast c (by rwa [List.head?_reverse] at hc)
  rw [trimEnd, dropEndWhile, List.reverse_append, hBack,
    List.reverse_reverse]

/- Blanks at the ends make no difference to what is left. -/
theorem trimEnd_blanks
    {b : Text}
    (hb : ∀ c ∈ b, isBlank c = true)
    (t : Text) : trimEnd (t ++ b) = trimEnd t := by
  have hBack : ∀ c ∈ b.reverse, isBlank c = true :=
    fun c hc => hb c (List.mem_reverse.mp hc)
  rw [trimEnd, trimEnd, dropEndWhile, dropEndWhile,
    List.reverse_append, List.dropWhile_append_of_pos hBack]

theorem trim_blanks
    {b : Text}
    (ha : ∀ c ∈ a, isBlank c = true)
    (hb : ∀ c ∈ b, isBlank c = true)
    (t : Text) : trim (a ++ t ++ b) = trim t := by
  rw [trim, trim, trimStart, trimStart, List.append_assoc,
    List.dropWhile_append_of_pos ha, List.dropWhile_append]
  split_ifs with hNil
  · rw [List.isEmpty_iff.mp hNil, List.dropWhile_eq_nil_iff.mpr hb]
  · exact trimEnd_blanks hb _

/- Trimming takes off the blanks at both ends. -/
theorem trim_append
    {b w : Text}
    (ha : ∀ c ∈ a, isBlank c = true)
    (hb : ∀ c ∈ b, isBlank c = true)
    (hNil : w ≠ [])
    (hFirst : ∀ c, w.head? = some c → isBlank c = false)
    (hLast : ∀ c, w.getLast? = some c → isBlank c = false) :
    trim (a ++ w ++ b) = w := by
  have hFront : trimStart (a ++ (w ++ b)) = w ++ b := by
    refine congrArg Prod.snd (run_append ha fun c hc => ?_)
    apply hFirst
    rcases List.exists_cons_of_ne_nil hNil with ⟨d, w', rfl⟩
    exact hc
  rw [trim, List.append_assoc, hFront, trimEnd_append hb hLast]

/- Nothing is left of a text that is all blanks. -/
theorem trim_eq_nil_iff
    {t : Text} :
    trim t = [] ↔ ∀ c ∈ t, isBlank c = true := by
  unfold trim trimEnd dropEndWhile trimStart
  rw [List.reverse_eq_nil_iff, List.dropWhile_eq_nil_iff]
  constructor
  · intro h
    rw [← List.dropWhile_eq_nil_iff]
    cases hRest : t.dropWhile isBlank with
    | nil => rfl
    | cons c rest =>
        have hBlank : isBlank c = true := by
          apply h
          rw [hRest]
          simp
        have hNot : isBlank c = false :=
          not_of_head?_dropWhile (t := t) (by rw [hRest]; rfl)
        rw [hNot] at hBlank
        cases hBlank
  · intro h c hc
    exact h c ((List.dropWhile_suffix _).subset
      (List.mem_reverse.mp hc))

/- The last word stands behind the last blank. -/
theorem takeWhile_reverse_append
    {w : Text}
    (hw : ∀ c ∈ w, isBlank c = false)
    (t : Text) :
    ((t ++ [' '] ++ w).reverse.takeWhile (!isBlank ·)).reverse =
      w := by
  have hTake :
      (w.reverse ++ ' ' :: t.reverse).takeWhile (!isBlank ·) =
        w.reverse := by
    refine congrArg Prod.fst
      (run_append (p := (!isBlank ·)) (fun c hc => ?_)
        fun c hc => ?_)
    · simp [hw c (List.mem_reverse.mp hc)]
    · cases hc
      decide
  have hReverse :
      (t ++ [' '] ++ w).reverse =
        w.reverse ++ ' ' :: t.reverse := by
    simp
  rw [hReverse, hTake, List.reverse_reverse]

/- Two texts that part somewhere start nothing together. -/
theorem after?_eq_none
    {v w : Text}
    (hv : ¬ v <+: w)
    (hw : ¬ w <+: v)
    (t : Text) : after? v (w ++ t) = none := by
  cases hAfter : after? v (w ++ t) with
  | none => rfl
  | some rest =>
      have hPrefix : v <+: w ++ t :=
        ⟨rest, (eq_append_of_after? hAfter).symm⟩
      rcases List.prefix_or_prefix_of_prefix hPrefix
        (List.prefix_append w t) with h | h
      · exact absurd h hv
      · exact absurd h hw

------------------------------------------------------------
-- Words Between Blanks
------------------------------------------------------------

theorem words_append_cons
    {c : Char}
    (hc : isBlank c = true)
    (t u : Text) :
    words (t ++ c :: u) = words t ++ words u := by
  rw [words, List.splitOnP_append_cons _ _ hc,
    List.filter_append, words, words]

theorem words_of_not_blank
    {w : Text}
    (hNil : w ≠ [])
    (hw : ∀ c ∈ w, isBlank c = false) : words w = [w] := by
  rw [words, List.splitOnP_eq_singleton hw]
  simp [hNil]

theorem words_of_blanks
    (ha : ∀ c ∈ a, isBlank c = true) : words a = [] := by
  induction a with
  | nil => rfl
  | cons c a ih =>
      have h := words_append_cons (ha c List.mem_cons_self) [] a
      rw [List.nil_append] at h
      rw [h, ih fun d hd => ha d (List.mem_cons_of_mem c hd)]
      rfl

/- A word in front, with a blank or nothing behind it. -/
theorem words_append_of_blank
    {w t : Text}
    (hNil : w ≠ [])
    (hw : ∀ c ∈ w, isBlank c = false)
    (ht : ∀ c, t.head? = some c → isBlank c = true) :
    words (w ++ t) = w :: words t := by
  cases t with
  | nil =>
      rw [List.append_nil, words_of_not_blank hNil hw]
      rfl
  | cons c t =>
      have hc := ht c rfl
      have hRest := words_append_cons hc [] t
      rw [List.nil_append] at hRest
      rw [words_append_cons hc, words_of_not_blank hNil hw, hRest]
      rfl

/- Blanks at either end make no words. -/
theorem words_blanks_append
    (ha : ∀ c ∈ a, isBlank c = true)
    (t : Text) : words (a ++ t) = words t := by
  induction a with
  | nil => rfl
  | cons c a ih =>
      rw [List.forall_mem_cons] at ha
      have h := words_append_cons ha.1 [] (a ++ t)
      rw [List.nil_append] at h
      rw [List.cons_append, h, ih ha.2]
      rfl

theorem words_append_blanks
    (ha : ∀ c ∈ a, isBlank c = true)
    (t : Text) : words (t ++ a) = words t := by
  cases a with
  | nil => rw [List.append_nil]
  | cons c a =>
      rw [List.forall_mem_cons] at ha
      rw [words_append_cons ha.1, words_of_blanks ha.2,
        List.append_nil]

@[simp] theorem words_trim (t : Text) :
    words (trim t) = words t := by
  rcases exists_trim_eq t with ⟨a, b, hEq, ha, hb⟩
  have h : words t = words (a ++ trim t ++ b) := by rw [← hEq]
  rw [h, words_append_blanks hb, words_blanks_append ha]

@[simp] theorem words_trimStart (t : Text) :
    words (trimStart t) = words t := by
  have h := words_blanks_append (a := t.takeWhile isBlank)
    (fun c hc => List.mem_takeWhile_imp hc) (trimStart t)
  rw [trimStart, List.takeWhile_append_dropWhile] at h
  exact h.symm

/- A text without blanks in front is empty or starts a word. -/
theorem trimStart_cases (t : Text) :
    trimStart t = [] ∨
      ∃ w u, trimStart t = w ++ u ∧ w ≠ [] ∧
        (∀ c ∈ w, isBlank c = false) ∧
        ∀ c, u.head? = some c → isBlank c = true := by
  cases hFront : trimStart t with
  | nil => exact Or.inl rfl
  | cons c u =>
      have hc : isBlank c = false := by
        apply not_of_head?_dropWhile (t := t)
        rw [← trimStart, hFront]
        rfl
      refine Or.inr ⟨_, _,
        (List.takeWhile_append_dropWhile (p := (!isBlank ·))).symm,
        ?_, ?_, ?_⟩
      · rw [List.takeWhile_cons_of_pos (by simp [hc])]
        exact List.cons_ne_nil _ _
      · intro d hd
        simpa using List.mem_takeWhile_imp hd
      · intro d hd
        simpa using not_of_head?_dropWhile hd

/- Cutting off the first word leaves the others. -/
theorem words_dropWhile_trimStart (t : Text) :
    words ((trimStart t).dropWhile (!isBlank ·)) =
      (words t).tail := by
  rw [← words_trimStart t]
  rcases trimStart_cases t with hNil | ⟨w, u, hEq, hNil, hw, hu⟩
  · rw [hNil]
    rfl
  · have hRun : run (!isBlank ·) (w ++ u) = (w, u) := by
      apply run_append
      · simpa using hw
      · simpa using hu
    have hDrop : (w ++ u).dropWhile (!isBlank ·) = u :=
      congrArg Prod.snd hRun
    rw [hEq, hDrop, words_append_of_blank hNil hw hu,
      List.tail_cons]

theorem words_eq_nil_iff {t : Text} :
    words t = [] ↔ ∀ c ∈ t, isBlank c = true := by
  refine ⟨fun h => ?_, words_of_blanks⟩
  rw [← words_trimStart] at h
  rcases trimStart_cases t with hNil | ⟨w, u, hEq, hNil, hw, hu⟩
  · simpa [trimStart] using hNil
  · rw [hEq, words_append_of_blank hNil hw hu] at h
    cases h

/- A text that has one word is that word once it is trimmed. -/
theorem trim_of_words_singleton
    {t w : Text}
    (h : words t = [w]) : trim t = w := by
  rw [← words_trimStart] at h
  rcases trimStart_cases t with hNil | ⟨v, u, hEq, hNil, hv, hu⟩
  · rw [hNil] at h
    cases h
  · rw [hEq, words_append_of_blank hNil hv hu] at h
    rcases List.cons.inj h with ⟨rfl, hNone⟩
    rw [trim, hEq]
    refine trimEnd_append (words_eq_nil_iff.mp hNone) ?_
    intro c hc
    exact hv c (List.mem_of_mem_getLast? hc)

/- Words with a space in front of each. -/
def spaced (ws : List Text) : Text :=
  ws.flatMap (' ' :: ·)

@[simp] theorem spaced_nil : spaced [] = [] := rfl

@[simp] theorem spaced_cons
    (w : Text)
    (ws : List Text) :
    spaced (w :: ws) = ' ' :: (w ++ spaced ws) := rfl

theorem spaced_append
    (vs ws : List Text) :
    spaced (vs ++ ws) = spaced vs ++ spaced ws :=
  List.flatMap_append

/- Spaced words are found again, with blanks behind them. -/
theorem words_spaced
    {ws : List Text}
    (hws : ∀ w ∈ ws, w ≠ [] ∧ ∀ c ∈ w, isBlank c = false)
    (ha : ∀ c ∈ a, isBlank c = true) :
    words (spaced ws ++ a) = ws := by
  induction ws with
  | nil => exact words_of_blanks ha
  | cons w ws ih =>
      rcases hws w List.mem_cons_self with ⟨hNil, hw⟩
      have hws' :=
        ih fun v hv => hws v (List.mem_cons_of_mem w hv)
      have hSpace : isBlank ' ' = true := by decide
      have hFirst :
          words (w ++ (spaced ws ++ a)) =
            w :: words (spaced ws ++ a) := by
        apply words_append_of_blank hNil hw
        intro c hc
        cases ws with
        | nil => exact ha c (List.mem_of_mem_head? hc)
        | cons v ws =>
            simp only [spaced_cons, List.cons_append,
              List.head?_cons, Option.some.injEq] at hc
            rw [← hc]
            exact hSpace
      have hStart :=
        words_append_cons hSpace [] (w ++ (spaced ws ++ a))
      rw [List.nil_append] at hStart
      rw [spaced_cons, List.cons_append, List.append_assoc,
        hStart, hFirst, hws']
      rfl

------------------------------------------------------------
-- Words Between Signs
------------------------------------------------------------

/- The stretches between characters that are in no word. -/
def wordRuns (t : Text) : List Text :=
  t.splitOnP (!isWord ·)

theorem wordRuns_append_cons
    {c : Char}
    (hc : isWord c = false)
    (t u : Text) :
    wordRuns (t ++ c :: u) = wordRuns t ++ wordRuns u :=
  List.splitOnP_append_cons t u (by simp [hc])

theorem wordRuns_of_word
    {w : Text}
    (hw : ∀ c ∈ w, isWord c = true) : wordRuns w = [w] :=
  List.splitOnP_eq_singleton fun c hc => by simp [hw c hc]

theorem wordRuns_cons
    (c : Char)
    (t : Text) :
    wordRuns (c :: t) =
      if isWord c = true then (wordRuns t).modifyHead (c :: ·)
      else [] :: wordRuns t := by
  rw [wordRuns, List.splitOnP_cons_eq_if_modifyHead, wordRuns]
  cases isWord c <;> simp

theorem tail_wordRuns_cons
    {c : Char}
    (hc : isWord c = true)
    (t : Text) :
    (wordRuns (c :: t)).tail = (wordRuns t).tail := by
  rw [wordRuns_cons, if_pos hc]
  cases wordRuns t <;> rfl

/- The first stretch is what a text starts with. -/
theorem head?_wordRuns (t : Text) :
    (wordRuns t).head? = some (t.takeWhile isWord) := by
  induction t with
  | nil => rfl
  | cons c t ih =>
      rw [wordRuns_cons, List.takeWhile_cons]
      split_ifs
      · rcases List.head?_eq_some_iff.mp ih with ⟨runs, hRuns⟩
        rw [hRuns]
        rfl
      · rfl

end Text

end SourceDocs
