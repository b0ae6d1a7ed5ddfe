import SourceDocs.Proofs.Markdown.LinkStripping

/-
  Slugs as words with hyphens between them.

  What is kept of a heading falls into words at its hyphens.
  The slug is these words with one hyphen between two of
  them, so it has none at its ends and no two in a row. Of
  such a text nothing is dropped when its slug is taken.

  Key definitions include:
    * `SourceDocs.Heading.hyphenWords`
    * `SourceDocs.Heading.IsHyphenated`

  Main results:
    * `SourceDocs.Heading.trimHyphens_squeeze`
    * `SourceDocs.Heading.isHyphenated_iff`
    * `SourceDocs.Heading.slug_canonical`
-/

------------------------------------------------------------
-- Ends Of Texts
------------------------------------------------------------

namespace SourceDocs

namespace Text

/- The end of two texts is that of the second, if it has one. -/
theorem dropEndWhile_append
    (p : Char → Bool)
    (a b : Text) :
    dropEndWhile p (a ++ b) =
      if dropEndWhile p b = [] then dropEndWhile p a
      else a ++ dropEndWhile p b := by
  simp only [dropEndWhile, List.reverse_append,
    List.dropWhile_append, List.isEmpty_iff,
    List.reverse_eq_nil_iff]
  split_ifs
  · rfl
  · rw [List.reverse_append, List.reverse_reverse]

theorem dropEndWhile_of_not_mem
    {mark : Char}
    {t : Text}
    (ht : mark ∉ t) : dropEndWhile (· == mark) t = t := by
  rcases List.eq_nil_or_concat' t with rfl | ⟨front, c, rfl⟩
  · rfl
  · refine dropEndWhile_concat_of_neg ?_ front
    simpa using fun hEq : c = mark => ht (by simp [hEq])

end Text

------------------------------------------------------------
-- Words Between Hyphens
------------------------------------------------------------

namespace Heading

/- The stretches between hyphens that are not empty. -/
def hyphenWords (t : Text) : List Text :=
  (t.splitOn '-').filter (· ≠ [])

@[simp] theorem hyphenWords_nil : hyphenWords [] = [] := rfl

theorem hyphenWords_append_hyphen (a b : Text) :
    hyphenWords (a ++ '-' :: b) =
      hyphenWords a ++ hyphenWords b := by
  rw [hyphenWords, List.splitOn_append_cons_self,
    List.filter_append]
  rfl

/- A text without hyphens is a word. -/
theorem hyphenWords_of_not_mem
    {w : Text}
    (hw : '-' ∉ w)
    (hNil : w ≠ []) : hyphenWords w = [w] := by
  rw [hyphenWords, List.splitOn_eq_singleton hw]
  simp [hNil]

theorem ne_nil_of_mem_hyphenWords
    {t w : Text}
    (hw : w ∈ hyphenWords t) : w ≠ [] := by
  simpa using (List.mem_filter.mp hw).2

/- Words of which none is empty are put together to more. -/
theorem join_hyphen_eq_nil_iff
    {ws : List Text}
    (hWords : ∀ w ∈ ws, w ≠ []) :
    Text.join ['-'] ws = [] ↔ ws = [] := by
  constructor
  · intro hJoin
    match ws with
    | [] => rfl
    | [w] =>
        rw [Text.join, List.intercalate_singleton] at hJoin
        exact absurd hJoin (hWords w List.mem_cons_self)
    | w :: w' :: ws =>
        rw [Text.join, List.intercalate_cons_cons] at hJoin
        simp at hJoin
  · rintro rfl
    rfl

/- A word before others has a hyphen behind it. -/
theorem join_hyphen_cons
    {ws : List Text}
    (hWords : ∀ v ∈ ws, v ≠ [])
    (w : Text) :
    Text.join ['-'] (w :: ws) =
      if Text.join ['-'] ws = [] then w
      else w ++ '-' :: Text.join ['-'] ws := by
  simp only [join_hyphen_eq_nil_iff hWords]
  cases ws with
  | nil =>
      rw [if_pos rfl, Text.join, List.intercalate_singleton]
  | cons w' ws =>
      rw [if_neg (List.cons_ne_nil w' ws), Text.join, Text.join,
        List.intercalate_cons_cons, List.append_assoc,
        List.singleton_append]

/- The words that are put together are found again. -/
theorem hyphenWords_join
    {ws : List Text}
    (hWords : ∀ w ∈ ws, w ≠ [] ∧ '-' ∉ w) :
    hyphenWords (Text.join ['-'] ws) = ws := by
  by_cases hNil : ws = []
  · subst hNil
    rfl
  · rw [hyphenWords, Text.join,
      List.splitOn_intercalate '-' (fun w hw => (hWords w hw).2)
        hNil,
      List.filter_eq_self]
    exact fun w hw => by simpa using (hWords w hw).1

------------------------------------------------------------
-- Squeezing And Trimming
------------------------------------------------------------

/- Of hyphens in a row the first stays. -/
theorem squeeze_hyphen (t : Text) :
    squeeze ('-' :: t) =
      '-' :: squeeze (t.dropWhile (· == '-')) := by
  induction t with
  | nil => rfl
  | cons c t ih =>
      by_cases hc : c = '-'
      · subst hc
        rw [squeeze_hyphen_hyphen, ih]
        simp
      · rw [squeeze_hyphen_cons hc,
          List.dropWhile_cons_of_neg (by simpa)]

/-
  Hyphens behind a word stay as one, if anything but hyphens
  follows them.
-/
theorem trimHyphens_append_hyphen
    {w : Text}
    (hw : '-' ∉ w)
    (hNil : w ≠ [])
    (t : Text) :
    trimHyphens (w ++ squeeze ('-' :: t)) =
      if trimHyphens (squeeze t) = [] then w
      else w ++ '-' :: trimHyphens (squeeze t) := by
  have hFront (u : Text) :
      (w ++ u).dropWhile (· == '-') = w ++ u := by
    rcases List.exists_cons_of_ne_nil hNil with ⟨c, w, rfl⟩
    rw [List.cons_append, List.dropWhile_cons_of_neg]
    simpa using fun hEq : c = '-' => hw (by simp [hEq])
  have hRest :
      trimHyphens (squeeze t) =
        Text.dropEndWhile (· == '-')
          (squeeze (t.dropWhile (· == '-'))) := by
    rw [trimHyphens, dropWhile_squeeze]
  rw [squeeze_hyphen, trimHyphens, hFront, hRest,
    Text.dropEndWhile_append, Text.dropEndWhile_of_not_mem hw,
    ← List.singleton_append, Text.dropEndWhile_append]
  split_ifs with hEmpty hWhole hWhole
  · rfl
  · exact absurd rfl hWhole
  · simp at hWhole
  · rfl

/-
  Squeezing and trimming a text puts its words together with
  single hyphens.
-/
theorem trimHyphens_squeeze (t : Text) :
    trimHyphens (squeeze t) =
      Text.join ['-'] (hyphenWords t) := by
  -- The word that a hyphen in the text ends is `w` so far.
  have hBehind :
      ∀ w, '-' ∉ w →
        trimHyphens (w ++ squeeze t) =
          Text.join ['-'] (hyphenWords (w ++ t)) := by
    induction t with
    | nil =>
        intro w hw
        rw [squeeze, List.append_nil]
        by_cases hNil : w = []
        · subst hNil
          rfl
        · have hTrim := trimHyphens_append_hyphen hw hNil []
          have hOne : squeeze ['-'] = ['-'] := rfl
          rw [hOne, trimHyphens_concat] at hTrim
          rw [hTrim, hyphenWords_of_not_mem hw hNil, Text.join,
            List.intercalate_singleton]
          rfl
    | cons c t ih =>
        intro w hw
        by_cases hc : c = '-'
        · subst hc
          have hRest := ih [] (by simp)
          rw [List.nil_append, List.nil_append] at hRest
          rw [hyphenWords_append_hyphen]
          by_cases hNil : w = []
          · rw [hNil, List.nil_append, trimHyphens_squeeze_cons,
              hRest, hyphenWords_nil, List.nil_append]
          · rw [trimHyphens_append_hyphen hw hNil, hRest,
              hyphenWords_of_not_mem hw hNil,
              List.singleton_append,
              join_hyphen_cons fun _ => ne_nil_of_mem_hyphenWords]
        · have hMore : '-' ∉ w ++ [c] := by
            simp [hw, Ne.symm hc]
          rw [squeeze_cons hc, List.append_cons,
            List.append_cons w c t]
          exact ih (w ++ [c]) hMore
  exact hBehind [] (by simp)

------------------------------------------------------------
-- Hyphenated Texts
------------------------------------------------------------

/- What a word of a slug is made of. -/
def isSlugLetter (c : Char) : Bool :=
  isAsciiLower c || isAsciiDigit c

/-
  A text of words, at least one, with a hyphen between two
  of them; none is empty, and all are made of small letters
  and digits.
-/
def IsHyphenated (t : Text) : Prop :=
  ∃ words : List Text,
    t = Text.join ['-'] words ∧ words ≠ [] ∧
      ∀ w ∈ words, w ≠ [] ∧ ∀ c ∈ w, isSlugLetter c = true

theorem isSlugLetter_iff {c : Char} :
    isSlugLetter c = true ↔ isSlugChar c = true ∧ c ≠ '-' := by
  have hHyphen : isSlugLetter '-' = false := by decide
  simp only [isSlugChar, ← isSlugLetter.eq_1, Bool.or_eq_true,
    beq_iff_eq]
  constructor
  · intro hLetter
    refine ⟨Or.inl hLetter, ?_⟩
    rintro rfl
    rw [hHyphen] at hLetter
    cases hLetter
  · rintro ⟨hLetter | hEq, hNe⟩
    · exact hLetter
    · exact absurd hEq hNe

/- A text of slug characters has words of that kind. -/
theorem isHyphenated_join
    {t : Text}
    (hChars : ∀ c ∈ t, isSlugChar c = true)
    (hNil : hyphenWords t ≠ []) :
    IsHyphenated (Text.join ['-'] (hyphenWords t)) := by
  refine ⟨hyphenWords t, rfl, hNil, fun w hw => ?_⟩
  refine ⟨ne_nil_of_mem_hyphenWords hw, fun c hc => ?_⟩
  rcases Text.of_mem_splitOn (List.mem_filter.mp hw).1 c hc with
    ⟨hHyphen, hMem⟩
  exact isSlugLetter_iff.mpr ⟨hChars c hMem, hHyphen⟩

namespace IsHyphenated

variable {t : Text}

/- Such a text falls into its words again. -/
theorem join_hyphenWords
    (h : IsHyphenated t) :
    Text.join ['-'] (hyphenWords t) = t := by
  rcases h with ⟨words, rfl, -, hWords⟩
  rw [hyphenWords_join]
  intro w hw
  refine ⟨(hWords w hw).1, fun hMem => ?_⟩
  exact (isSlugLetter_iff.mp ((hWords w hw).2 _ hMem)).2 rfl

/- It can be a slug, as far as its characters go. -/
theorem isSlug (h : IsHyphenated t) : IsSlug t := by
  rcases h with ⟨words, rfl, hNil, hWords⟩
  refine ⟨fun hEmpty => hNil ?_, fun c hc => ?_⟩
  · exact (join_hyphen_eq_nil_iff fun w hw =>
      (hWords w hw).1).mp hEmpty
  · rcases Text.mem_join hc with hc | ⟨w, hw, hc⟩
    · rw [List.mem_singleton.mp hc]
      decide
    · exact (isSlugLetter_iff.mp ((hWords w hw).2 c hc)).1

/- It starts with a word, so with no hyphen. -/
theorem head?_ne (h : IsHyphenated t) : t.head? ≠ some '-' := by
  rcases h with ⟨words, rfl, hNil, hWords⟩
  rcases List.exists_cons_of_ne_nil hNil with ⟨w, ws, rfl⟩
  rw [List.forall_mem_cons] at hWords
  rcases hWords with ⟨⟨hWord, hLetters⟩, hRest⟩
  rcases List.exists_cons_of_ne_nil hWord with ⟨c, w, rfl⟩
  have hc := isSlugLetter_iff.mp (hLetters c List.mem_cons_self)
  rw [join_hyphen_cons fun v hv => (hRest v hv).1]
  split_ifs
  · simpa using hc.2
  · simpa using hc.2

/- It ends with one, too. -/
theorem getLast?_ne
    (h : IsHyphenated t) : t.getLast? ≠ some '-' := by
  rcases h with ⟨words, rfl, -, hWords⟩
  induction words with
  | nil => exact nofun
  | cons w ws ih =>
      rw [List.forall_mem_cons] at hWords
      rcases hWords with ⟨⟨-, hLetters⟩, hRest⟩
      rw [join_hyphen_cons fun v hv => (hRest v hv).1]
      split_ifs with hJoin
      · intro hLast
        have hMem := List.mem_of_getLast? hLast
        exact (isSlugLetter_iff.mp (hLetters _ hMem)).2 rfl
      · rcases List.exists_cons_of_ne_nil hJoin with ⟨c, u, hEq⟩
        have hLast := ih hRest
        rw [hEq] at hLast ⊢
        rwa [List.getLast?_append_cons, List.getLast?_cons_cons]

end IsHyphenated

------------------------------------------------------------
-- Slugs
------------------------------------------------------------

/- Of a slug character all is kept. -/
theorem slugPart_of_isSlugChar
    {c : Char}
    (hChar : isSlugChar c = true) : slugPart c = [c] := by
  apply of_isSlugChar _ hChar
  decide +kernel

theorem flatMap_slugPart_eq_self
    {t : Text}
    (hChars : ∀ c ∈ t, isSlugChar c = true) :
    t.flatMap slugPart = t := by
  induction t with
  | nil => rfl
  | cons c t ih =>
      rw [List.forall_mem_cons] at hChars
      rw [List.flatMap_cons, slugPart_of_isSlugChar hChars.1,
        ih hChars.2, List.singleton_append]

/- What a heading keeps for its slug, in words. -/
def slugWords (heading : Text) : List Text :=
  hyphenWords ((Link.strip heading).flatMap slugPart)

/- A slug is what is kept of the heading, word by word. -/
theorem slug_eq_join (heading : Text) :
    slug heading =
      if slugWords heading = [] then emptySlug
      else Text.join ['-'] (slugWords heading) := by
  rw [slug_eq, slugOf_trim, slugOf, trimHyphens_squeeze]
  exact if_congr
    (join_hyphen_eq_nil_iff fun _ => ne_nil_of_mem_hyphenWords)
    rfl rfl

theorem isHyphenated_slug (heading : Text) :
    IsHyphenated (slug heading) := by
  rw [slug_eq_join]
  split_ifs with hNil
  · refine ⟨[emptySlug], ?_, by simp, ?_⟩
    · rw [Text.join, List.intercalate_singleton]
    · decide
  · refine isHyphenated_join (fun c hc => ?_) hNil
    rcases List.mem_flatMap.mp hc with ⟨d, -, hd⟩
    exact isSlugChar_of_mem_slugPart hd

/- A hyphenated text is its own slug. -/
theorem IsHyphenated.slug_eq
    {t : Text}
    (h : IsHyphenated t) : slug t = t := by
  have hSlug := h.isSlug
  have hClose : ')' ∉ t := fun hMem =>
    absurd (hSlug.chars _ hMem) (by decide)
  have hJoin := h.join_hyphenWords
  have hWords : slugWords t = hyphenWords t := by
    rw [slugWords, Link.strip_of_not_mem_close hClose,
      flatMap_slugPart_eq_self hSlug.chars]
  have hNil : hyphenWords t ≠ [] := by
    intro hNone
    rw [hNone] at hJoin
    exact hSlug.ne_nil hJoin.symm
  rw [slug_eq_join, hWords, if_neg hNil, hJoin]

theorem isHyphenated_iff {t : Text} :
    IsHyphenated t ↔ slug t = t := by
  constructor
  · exact IsHyphenated.slug_eq
  · intro hEq
    rw [← hEq]
    exact isHyphenated_slug t

/-
  A slug is words of small letters and digits with single
  hyphens between them and none at the ends. Every text of
  that kind is a slug, its own one, so the slug of a slug is
  the same again.
-/
theorem slug_canonical :
    (∀ heading,
      IsHyphenated (slug heading) ∧
        (slug heading).head? ≠ some '-' ∧
        (slug heading).getLast? ≠ some '-') ∧
    (∀ heading, slug (slug heading) = slug heading) ∧
    ∀ t, IsHyphenated t ↔ slug t = t := by
  refine ⟨fun heading => ?_, fun heading => ?_, fun t => ?_⟩
  · have hSlug := isHyphenated_slug heading
    exact ⟨hSlug, hSlug.head?_ne, hSlug.getLast?_ne⟩
  · exact (isHyphenated_slug heading).slug_eq
  · exact isHyphenated_iff

end Heading

end SourceDocs
