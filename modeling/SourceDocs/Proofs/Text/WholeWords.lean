import SourceDocs.Proofs.Text.Cuts
import SourceDocs.Proofs.Text.Words

/-
  Words that stand whole in a text.

  A word stands whole where no word character touches it. It
  is one of the word runs of the text then, and a text has one
  place only at which it stands for the first time. Signs and
  blanks around a text make no runs of their own.

  Key definitions include:
    * `SourceDocs.Text.EndsWord`
    * `SourceDocs.Text.StartsNoWord`
    * `SourceDocs.Text.IsGap`

  Main results:
    * `SourceDocs.Text.mem_wordRuns_append_word`
    * `SourceDocs.Text.eq_of_append_word_eq`
    * `SourceDocs.Text.mem_wordRuns_trim`
-/

------------------------------------------------------------
-- Places Of Words
------------------------------------------------------------

namespace SourceDocs

namespace Text

/- Whether a word may stand behind a text. -/
def EndsWord (t : Text) : Prop :=
  ∀ c, t.getLast? = some c → isWord c = false

/- Whether a text may stand behind a word. -/
def StartsNoWord (t : Text) : Prop :=
  ∀ c, t.head? = some c → isWord c = false

variable {a b t u w : Text}

/- A word that stands whole is one of the runs. -/
theorem mem_wordRuns_append_word
    (hw : ∀ c ∈ w, isWord c = true)
    (ha : EndsWord a)
    (hb : StartsNoWord b) : w ∈ wordRuns (a ++ (w ++ b)) := by
  have hFront : w ∈ wordRuns (a ++ w) := by
    rcases List.eq_nil_or_concat' a with rfl | ⟨a, c, rfl⟩
    · rw [List.nil_append, wordRuns_of_word hw]
      exact List.mem_singleton_self w
    · have hc := ha c List.getLast?_concat
      rw [List.append_assoc, List.singleton_append,
        wordRuns_append_cons hc, wordRuns_of_word hw]
      exact List.mem_append_right _ (List.mem_singleton_self w)
  cases b with
  | nil => rwa [List.append_nil]
  | cons c b =>
      rw [← List.append_assoc, wordRuns_append_cons (hb c rfl)]
      exact List.mem_append_left _ hFront

/- No place of a word is behind the first one. -/
theorem eq_nil_of_append_word_eq
    (hw : ∀ c ∈ w, isWord c = true)
    {b' : Text}
    (ha : EndsWord a)
    (hu : EndsWord (a ++ u))
    (hb : StartsNoWord b)
    (hNot : w ∉ wordRuns (a ++ u))
    (hEq : w ++ b = u ++ (w ++ b')) : u = [] := by
  have hPrefix : u <+: w ++ b := ⟨w ++ b', hEq.symm⟩
  rcases prefix_append_cases hPrefix with hIn | ⟨v, rfl, hv⟩
  · rcases List.eq_nil_or_concat' u with rfl | ⟨u, c, rfl⟩
    · rfl
    · rw [← List.append_assoc] at hu
      have hSign := hu c List.getLast?_concat
      have hWord := hw c (hIn.subset (by simp))
      rw [hWord] at hSign
      cases hSign
  · refine absurd (mem_wordRuns_append_word hw ha ?_) hNot
    intro c hc
    refine hb c ?_
    rcases List.head?_eq_some_iff.mp hc with ⟨v, rfl⟩
    rcases hv with ⟨b, rfl⟩
    rfl

/- So a text is parted at the first place in one way. -/
theorem eq_of_append_word_eq
    {a' b' : Text}
    (hw : ∀ c ∈ w, isWord c = true)
    (ha : EndsWord a)
    (ha' : EndsWord a')
    (hb : StartsNoWord b)
    (hb' : StartsNoWord b')
    (hNot : w ∉ wordRuns a)
    (hNot' : w ∉ wordRuns a')
    (hEq : a ++ (w ++ b) = a' ++ (w ++ b')) : a = a' := by
  rcases List.prefix_or_prefix_of_prefix
    (List.prefix_append a (w ++ b))
    (hEq ▸ List.prefix_append a' (w ++ b')) with
    ⟨u, rfl⟩ | ⟨u, rfl⟩
  · rw [List.append_assoc, List.append_cancel_left_eq] at hEq
    rw [eq_nil_of_append_word_eq hw ha ha' hb hNot' hEq,
      List.append_nil]
  · rw [List.append_assoc, List.append_cancel_left_eq] at hEq
    rw [eq_nil_of_append_word_eq hw ha' ha hb' hNot hEq.symm,
      List.append_nil]

------------------------------------------------------------
-- Signs Around A Text
------------------------------------------------------------

theorem mem_wordRuns_signs_append
    (hw : w ≠ [])
    (ha : ∀ c ∈ a, isWord c = false)
    (t : Text) : w ∈ wordRuns (a ++ t) ↔ w ∈ wordRuns t := by
  induction a with
  | nil => rfl
  | cons c a ih =>
      rw [List.forall_mem_cons] at ha
      rw [List.cons_append, wordRuns_cons, if_neg (by simp [ha.1]),
        List.mem_cons, or_iff_right hw, ih ha.2]

theorem mem_wordRuns_append_signs
    (hw : w ≠ [])
    (ha : ∀ c ∈ a, isWord c = false)
    (t : Text) : w ∈ wordRuns (t ++ a) ↔ w ∈ wordRuns t := by
  cases a with
  | nil => rw [List.append_nil]
  | cons c a =>
      rw [List.forall_mem_cons] at ha
      have hNone : w ∉ wordRuns a := by
        have hEmpty := mem_wordRuns_signs_append hw ha.2 []
        rw [List.append_nil] at hEmpty
        rw [hEmpty]
        exact fun hMem => hw (List.mem_singleton.mp hMem)
      rw [wordRuns_append_cons ha.1, List.mem_append,
        or_iff_left hNone]

/- Trimming keeps the words. -/
theorem mem_wordRuns_trim
    (hw : w ≠ []) :
    w ∈ wordRuns (trim t) ↔ w ∈ wordRuns t := by
  rcases exists_trim_eq t with ⟨a, b, hEq, ha, hb⟩
  have hSigns :
      ∀ {s : Text}, (∀ c ∈ s, isBlank c = true) →
        ∀ c ∈ s, isWord c = false :=
    fun hs c hc => isWord_of_isBlank (hs c hc)
  have hRuns :
      w ∈ wordRuns (a ++ trim t ++ b) ↔ w ∈ wordRuns (trim t) := by
    rw [mem_wordRuns_append_signs hw (hSigns hb),
      mem_wordRuns_signs_append hw (hSigns ha)]
  rw [← hRuns, ← hEq]

------------------------------------------------------------
-- Gaps
------------------------------------------------------------

/- Blanks between two texts, at least one. -/
structure IsGap (t : Text) : Prop where
  ne_nil : t ≠ []
  blank : ∀ c ∈ t, isBlank c = true

instance (t : Text) : Decidable (IsGap t) :=
  decidable_of_iff (t ≠ [] ∧ ∀ c ∈ t, isBlank c = true)
    ⟨fun h => ⟨h.1, h.2⟩, fun h => ⟨h.ne_nil, h.blank⟩⟩

namespace IsGap

theorem getLast?_append
    (hw : IsGap w)
    (t : Text) : (t ++ w).getLast? = w.getLast? := by
  rcases List.eq_nil_or_concat' w with rfl | ⟨w, c, rfl⟩
  · exact absurd rfl hw.ne_nil
  · rw [← List.append_assoc, List.getLast?_concat,
      List.getLast?_concat]

theorem head?_append
    (hw : IsGap w)
    (t : Text) : (w ++ t).head? = w.head? := by
  rcases List.exists_cons_of_ne_nil hw.ne_nil with ⟨c, w, rfl⟩
  rfl

theorem endsWord
    (hw : IsGap w)
    (t : Text) : EndsWord (t ++ w) := by
  intro c hc
  rw [hw.getLast?_append] at hc
  exact isWord_of_isBlank
    (hw.blank c (List.mem_of_mem_getLast? hc))

theorem startsNoWord
    (hw : IsGap w)
    (t : Text) : StartsNoWord (w ++ t) := by
  intro c hc
  rw [hw.head?_append] at hc
  exact isWord_of_isBlank (hw.blank c (List.mem_of_mem_head? hc))

end IsGap

end Text

end SourceDocs
