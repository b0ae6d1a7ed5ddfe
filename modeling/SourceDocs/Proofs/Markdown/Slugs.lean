import Mathlib.Data.List.TakeWhile
import SourceDocs.Markdown.Heading
import SourceDocs.Proofs.Text.Stretches

/-
  The slug of a heading as a matter of single characters:
  what each of them adds to it does not depend on those
  around it, and blanks at the ends add nothing.

  Key definitions include:
    * `SourceDocs.Heading.slugPart`
    * `SourceDocs.Heading.slugOf`
    * `SourceDocs.Heading.IsSlug`

  Main results:
    * `SourceDocs.Heading.slug_eq`
    * `SourceDocs.Heading.slugOf_trim`
    * `SourceDocs.Heading.isSlug_slug`
-/

------------------------------------------------------------
-- Parts Of A Slug
------------------------------------------------------------

namespace SourceDocs

namespace Heading

/- What a character adds to a slug. -/
def slugPart (c : Char) : Text :=
  (lowerIn [] c []).filterMap slugChar?

/- Of a final sigma as of any other nothing is kept. -/
theorem filterMap_lowerIn
    (before : Text)
    (c : Char)
    (after : Text) :
    (lowerIn before c after).filterMap slugChar? =
      slugPart c := by
  unfold slugPart lowerIn
  by_cases hSigma : c = 'Σ'
  · rw [if_pos hSigma, if_pos hSigma]
    split_ifs <;> decide +kernel
  · rw [if_neg hSigma, if_neg hSigma]

/- What a text adds to a slug, character by character. -/
theorem filterMap_toLower (t : Text) :
    (Text.toLower t).filterMap slugChar? = t.flatMap slugPart := by
  have hFrom :
      ∀ before, (Text.toLowerFrom before t).filterMap slugChar? =
        t.flatMap slugPart := by
    induction t with
    | nil => intro before; rfl
    | cons c cs ih =>
        intro before
        rw [Text.toLowerFrom, List.filterMap_append,
          filterMap_lowerIn, ih, List.flatMap_cons]
  exact hFrom []

/- The slug that the parts of a text come to. -/
def slugOf (t : Text) : Text :=
  let kept := trimHyphens (squeeze (t.flatMap slugPart))
  if kept = [] then emptySlug else kept

theorem slug_eq (heading : Text) :
    slug heading = slugOf (Text.trim (Link.strip heading)) := by
  rw [slug, slugOf, filterMap_toLower]

------------------------------------------------------------
-- Hyphens At The Ends
------------------------------------------------------------

theorem squeeze_cons
    {c : Char}
    (hc : c ≠ '-')
    (t : Text) : squeeze (c :: t) = c :: squeeze t := by
  rw [squeeze]
  exact fun _ h => absurd h hc

/- A hyphen before another one goes. -/
theorem squeeze_hyphen_hyphen (t : Text) :
    squeeze ('-' :: '-' :: t) = squeeze ('-' :: t) := by
  rw [squeeze]

theorem squeeze_hyphen_cons
    {c : Char}
    (hc : c ≠ '-')
    (t : Text) :
    squeeze ('-' :: c :: t) = '-' :: squeeze (c :: t) := by
  rw [squeeze]
  intro cs _ h
  exact hc (List.cons.inj h).1

/- Hyphens in front are dropped as well before as after. -/
theorem dropWhile_squeeze (t : Text) :
    (squeeze t).dropWhile (· == '-') =
      squeeze (t.dropWhile (· == '-')) := by
  induction t with
  | nil => rfl
  | cons c t ih =>
      by_cases hc : c = '-'
      · subst hc
        cases t with
        | nil => decide
        | cons d t =>
            by_cases hd : d = '-'
            · subst hd
              rw [squeeze_hyphen_hyphen, ih]
              simp
            · rw [squeeze_hyphen_cons hd,
                List.dropWhile_cons_of_pos (by simp), ih]
              simp
      · rw [squeeze_cons hc, List.dropWhile_cons_of_neg (by simpa),
          List.dropWhile_cons_of_neg (by simpa), squeeze_cons hc]

/- A hyphen at the end is squeezed away or stays there. -/
theorem squeeze_concat_hyphen (t : Text) :
    squeeze (t ++ ['-']) = squeeze t ∨
      squeeze (t ++ ['-']) = squeeze t ++ ['-'] := by
  induction t with
  | nil => right; decide
  | cons c t ih =>
      by_cases hc : c = '-'
      · subst hc
        cases t with
        | nil => left; decide
        | cons d t =>
            by_cases hd : d = '-'
            · subst hd
              simpa only [List.cons_append, squeeze_hyphen_hyphen]
                using ih
            · simpa only [List.cons_append,
                squeeze_hyphen_cons hd, List.cons.injEq,
                true_and] using ih
      · simpa only [List.cons_append, squeeze_cons hc,
          List.cons.injEq, true_and] using ih

theorem trimHyphens_concat (t : Text) :
    trimHyphens (t ++ ['-']) = trimHyphens t := by
  rw [trimHyphens, trimHyphens, List.dropWhile_append]
  split_ifs with hEmpty
  · rw [List.isEmpty_iff.mp hEmpty]
    decide
  · exact Text.dropEndWhile_concat_of_pos rfl _

/- Hyphens at the front of the parts do not count. -/
theorem trimHyphens_squeeze_cons (t : Text) :
    trimHyphens (squeeze ('-' :: t)) =
      trimHyphens (squeeze t) := by
  rw [trimHyphens, trimHyphens, dropWhile_squeeze,
    dropWhile_squeeze, List.dropWhile_cons_of_pos (by simp)]

theorem trimHyphens_squeeze_concat (t : Text) :
    trimHyphens (squeeze (t ++ ['-'])) =
      trimHyphens (squeeze t) := by
  rcases squeeze_concat_hyphen t with h | h
  · rw [h]
  · rw [h, trimHyphens_concat]

------------------------------------------------------------
-- Blanks At The Ends
------------------------------------------------------------

/- The code points of blanks. -/
def blankCodes : List Nat :=
  [9, 10, 11, 12, 13, 0x20, 0x85, 0xA0, 0x1680, 0x2000, 0x2001,
   0x2002, 0x2003, 0x2004, 0x2005, 0x2006, 0x2007, 0x2008,
   0x2009, 0x200A, 0x2028, 0x2029, 0x202F, 0x205F, 0x3000]

/- There are no other blanks. -/
theorem mem_blankCodes
    {c : Char}
    (hBlank : isBlank c = true) : c.toNat ∈ blankCodes := by
  have hCases := hBlank
  simp only [isBlank, Bool.or_eq_true, Bool.and_eq_true,
    decide_eq_true_eq, beq_iff_eq] at hCases
  simp only [blankCodes, List.mem_cons, List.not_mem_nil,
    or_false]
  omega

/- A blank adds a hyphen. -/
theorem slugPart_of_isBlank
    {c : Char}
    (hBlank : isBlank c = true) : slugPart c = ['-'] := by
  have hAll :
      ∀ n ∈ blankCodes, slugPart (Char.ofNat n) = ['-'] := by
    decide +kernel
  have hPart := hAll _ (mem_blankCodes hBlank)
  rwa [Char.ofNat_toNat] at hPart

/- A blank in front does not change a slug. -/
theorem slugOf_cons
    {c : Char}
    (hBlank : isBlank c = true)
    (t : Text) : slugOf (c :: t) = slugOf t := by
  rw [slugOf, slugOf, List.flatMap_cons,
    slugPart_of_isBlank hBlank, List.singleton_append,
    trimHyphens_squeeze_cons]

theorem slugOf_concat
    {c : Char}
    (hBlank : isBlank c = true)
    (t : Text) : slugOf (t ++ [c]) = slugOf t := by
  rw [slugOf, slugOf, List.flatMap_append, List.flatMap_cons,
    slugPart_of_isBlank hBlank, List.flatMap_nil,
    List.append_nil, trimHyphens_squeeze_concat]

/- Blanks in front do not change a slug. -/
theorem slugOf_append_of_blanks
    {a : Text}
    (hBlanks : ∀ c ∈ a, isBlank c = true)
    (t : Text) : slugOf (a ++ t) = slugOf t := by
  induction a with
  | nil => rfl
  | cons c a ih =>
      rw [List.cons_append,
        slugOf_cons (hBlanks c List.mem_cons_self)]
      exact ih fun d hd => hBlanks d (List.mem_cons_of_mem _ hd)

theorem slugOf_append_blanks
    {a : Text}
    (hBlanks : ∀ c ∈ a, isBlank c = true)
    (t : Text) : slugOf (t ++ a) = slugOf t := by
  induction a generalizing t with
  | nil => rw [List.append_nil]
  | cons c a ih =>
      rw [← List.singleton_append, ← List.append_assoc,
        ih fun d hd => hBlanks d (List.mem_cons_of_mem _ hd)]
      exact slugOf_concat (hBlanks c List.mem_cons_self) t

end Heading

namespace Text

/- A text is what trimming its end leaves, and blanks. -/
theorem exists_trimEnd_eq (t : Text) :
    ∃ b, t = trimEnd t ++ b ∧ ∀ c ∈ b, isBlank c = true := by
  refine ⟨(t.reverse.takeWhile isBlank).reverse, ?_, fun c hc => ?_⟩
  · rw [trimEnd, dropEndWhile, ← List.reverse_append,
      List.takeWhile_append_dropWhile, List.reverse_reverse]
  · exact List.mem_takeWhile_imp (List.mem_reverse.mp hc)

/- A text is what trimming leaves between two runs of blanks. -/
theorem exists_trim_eq (t : Text) :
    ∃ a b, t = a ++ trim t ++ b ∧
      (∀ c ∈ a, isBlank c = true) ∧
      (∀ c ∈ b, isBlank c = true) := by
  rcases exists_trimEnd_eq (trimStart t) with ⟨b, hEq, hb⟩
  refine ⟨t.takeWhile isBlank, b, ?_,
    fun c hc => List.mem_takeWhile_imp hc, hb⟩
  rw [trim, List.append_assoc, ← hEq, trimStart,
    List.takeWhile_append_dropWhile]

end Text

namespace Heading

/- Trimming a text does not change its slug. -/
theorem slugOf_trim (t : Text) :
    slugOf (Text.trim t) = slugOf t := by
  rcases Text.exists_trim_eq t with ⟨a, b, hText, ha, hb⟩
  conv =>
    rhs
    rw [hText]
  rw [slugOf_append_blanks hb, slugOf_append_of_blanks ha]

------------------------------------------------------------
-- What Slugs Are Made Of
------------------------------------------------------------

def isSlugChar (c : Char) : Bool :=
  isAsciiLower c || isAsciiDigit c || c == '-'

/- A text that can be a slug. -/
structure IsSlug (t : Text) : Prop where
  ne_nil : t ≠ []
  chars : ∀ c ∈ t, isSlugChar c = true

/- What is kept of a character can stand in a slug. -/
theorem isSlugChar_of_mem_slugPart
    {c d : Char}
    (hd : d ∈ slugPart c) : isSlugChar d = true := by
  rcases List.mem_filterMap.mp hd with ⟨e, -, he⟩
  rw [slugChar?] at he
  split_ifs at he with hBlank hKept
  · rcases Option.some.inj he with rfl
    decide
  · rcases Option.some.inj he with rfl
    exact hKept

theorem mem_of_mem_squeeze
    {c : Char}
    {t : Text}
    (hc : c ∈ squeeze t) : c ∈ t := by
  induction t using squeeze.induct with
  | case1 t ih =>
      rw [squeeze_hyphen_hyphen] at hc
      exact List.mem_cons_of_mem _ (ih hc)
  | case2 d t hd ih =>
      rw [squeeze] at hc
      · rcases List.mem_cons.mp hc with rfl | hc
        · exact List.mem_cons_self
        · exact List.mem_cons_of_mem _ (ih hc)
      · exact hd
  | case3 => exact hc

theorem mem_of_mem_trimHyphens
    {c : Char}
    {t : Text}
    (hc : c ∈ trimHyphens t) : c ∈ t := by
  rw [trimHyphens, Text.dropEndWhile, List.mem_reverse] at hc
  have hMem := List.mem_reverse.mp
    ((List.dropWhile_suffix _).subset hc)
  exact (List.dropWhile_suffix _).subset hMem

@[simp] theorem slug_ofHeading (heading : Text) :
    (Anchor.ofHeading heading).slug = slug heading := by
  rw [Anchor.ofHeading]

/- Slugs are never empty and made of slug characters. -/
theorem isSlug_slug (heading : Text) : IsSlug (slug heading) := by
  rw [slug_eq, slugOf]
  split_ifs with hNil
  · have hAll : emptySlug.all isSlugChar = true := by decide
    exact ⟨by decide, List.all_eq_true.mp hAll⟩
  · refine ⟨hNil, fun c hc => ?_⟩
    have hPart :=
      mem_of_mem_squeeze (mem_of_mem_trimHyphens hc)
    rcases List.mem_flatMap.mp hPart with ⟨d, -, hd⟩
    exact isSlugChar_of_mem_slugPart hd

------------------------------------------------------------
-- Slugs In Lower Case
------------------------------------------------------------

theorem toNat_lt_of_isSlugChar
    {c : Char}
    (hChar : isSlugChar c = true) : c.toNat < 128 := by
  simp only [isSlugChar, isAsciiLower, isAsciiDigit,
    Bool.or_eq_true, Bool.and_eq_true, decide_eq_true_eq,
    beq_iff_eq] at hChar
  rcases hChar with (⟨-, hLe⟩ | ⟨-, hLe⟩) | rfl
  · exact Nat.lt_of_le_of_lt hLe (by decide)
  · exact Nat.lt_of_le_of_lt hLe (by decide)
  · decide

/- What holds of them among the first characters holds of all. -/
theorem of_isSlugChar
    {p : Char → Prop}
    (hAll :
      ∀ n < 128, isSlugChar (Char.ofNat n) = true →
        p (Char.ofNat n))
    {c : Char}
    (hChar : isSlugChar c = true) : p c := by
  have hHere := hAll c.toNat (toNat_lt_of_isSlugChar hChar)
  rw [Char.ofNat_toNat] at hHere
  exact hHere hChar

/- The characters of slugs are in lower case. -/
theorem lowerChar_of_isSlugChar
    {c : Char}
    (hChar : isSlugChar c = true) :
    c ≠ 'Σ' ∧ c ≠ 'İ' ∧ c ≠ '_' ∧ lowerChar c = c := by
  apply of_isSlugChar _ hChar
  decide +kernel

theorem toLower_eq_self
    {t : Text}
    (hChars : ∀ c ∈ t, isSlugChar c = true) :
    Text.toLower t = t := by
  have hFrom : ∀ before, Text.toLowerFrom before t = t := by
    induction t with
    | nil => intro before; rfl
    | cons c t ih =>
        intro before
        rcases lowerChar_of_isSlugChar (hChars c List.mem_cons_self)
          with ⟨hSigma, hDot, -, hLower⟩
        rw [Text.toLowerFrom, lowerIn, if_neg hSigma,
          if_neg hDot, hLower,
          ih fun d hd => hChars d (List.mem_cons_of_mem c hd)]
        rfl
  exact hFrom []

/- A slug that is wanted is looked for as it is. -/
theorem IsSlug.lowered_eq
    {slug : Text}
    (hSlug : IsSlug slug) :
    (Text.toLower slug).filter (· ≠ '_') = slug := by
  rw [toLower_eq_self hSlug.chars, List.filter_eq_self]
  intro c hc
  simpa using (lowerChar_of_isSlugChar (hSlug.chars c hc)).2.2.1

end Heading

end SourceDocs
