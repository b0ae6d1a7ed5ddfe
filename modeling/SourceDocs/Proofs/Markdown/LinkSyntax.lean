import SourceDocs.Markdown.Link
import SourceDocs.Proofs.Text.Cuts
import SourceDocs.Proofs.Text.Words

/-
  Which texts are read as links and which as placeholders.

  Key definitions include:
    * `SourceDocs.Link.IsWritable`
    * `SourceDocs.Placeholder.IsWritable`

  Main results:
    * `SourceDocs.Link.read?_eq_some_iff`
    * `SourceDocs.Link.reader_steady`
    * `SourceDocs.Placeholder.read?_eq_some_iff`
    * `SourceDocs.Placeholder.reader_steady`
-/

------------------------------------------------------------
-- Links
------------------------------------------------------------

namespace SourceDocs

namespace Link

/-
  A link can be written if its label and its target end
  where the brackets say.
-/
structure IsWritable (link : Link) : Prop where
  label : ']' ∉ link.label
  target : ')' ∉ link.target
  ne_nil : link.target ≠ []

/- A link that is read is written at the front of the text. -/
theorem render_prefix_of_read?
    {t : Text}
    {link : Link}
    (h : read? t = some link) :
    link.IsWritable ∧ link.render <+: t := by
  rw [read?.eq_def] at h
  split at h
  · next t =>
    split at h
    · next u hLabel =>
      split at h
      · next c cs rest hTarget hClose =>
        rcases Option.some.inj h with rfl
        rcases Text.eq_of_dropWhile_ne hLabel with ⟨-, ht⟩
        rcases Text.eq_of_dropWhile_ne hClose with ⟨-, hu⟩
        refine ⟨⟨?_, ?_, List.cons_ne_nil c cs⟩, rest, ?_⟩
        · exact Text.not_mem_takeWhile_ne _ _
        · exact hTarget ▸ Text.not_mem_takeWhile_ne _ _
        · rw [hTarget] at hu
          conv_rhs => rw [ht, hu]
          simp [render]
      · simp at h
    · simp at h
  · simp at h

/- Exactly the links that can be written are read. -/
theorem read?_eq_some_iff
    {t : Text}
    {link : Link} :
    read? t = some link ↔
      link.IsWritable ∧ link.render <+: t := by
  refine ⟨render_prefix_of_read?, ?_⟩
  rintro ⟨hWritable, u, rfl⟩
  rcases link with ⟨label, target⟩
  rcases List.exists_cons_of_ne_nil hWritable.ne_nil with
    ⟨c, cs, rfl⟩
  have hText :
      render ⟨label, c :: cs⟩ ++ u =
        '[' :: (label ++ ']' :: '(' :: (c :: cs ++ ')' :: u)) := by
    simp [render]
  have hTake := Text.takeWhile_ne_append (b := u) hWritable.target
  have hDrop := Text.dropWhile_ne_append (b := u) hWritable.target
  rw [hText, read?, Text.dropWhile_ne_append hWritable.label,
    Text.takeWhile_ne_append hWritable.label]
  simp only [hTake, hDrop]

theorem reader_eq_some_iff
    {before : Option Char}
    {t x : Text}
    {link : Link} :
    reader before t = some (link, x) ↔
      read? t = some link ∧ x = link.render := by
  simp only [reader, Option.map_eq_some_iff, Prod.mk.injEq]
  constructor
  · rintro ⟨_, hRead, rfl, rfl⟩
    exact ⟨hRead, rfl⟩
  · rintro ⟨hRead, rfl⟩
    exact ⟨link, hRead, rfl, rfl⟩

theorem labelledReader_eq_some_iff
    {before : Option Char}
    {t x : Text}
    {link : Link} :
    labelledReader before t = some (link, x) ↔
      read? t = some link ∧ x = link.render ∧
        link.label ≠ [] := by
  simp only [labelledReader, Option.filter_eq_some_iff,
    reader_eq_some_iff, decide_eq_true_eq, and_assoc]

theorem render_ne_nil (link : Link) : link.render ≠ [] := by
  simp [render]

theorem reader_steady : reader.Steady where
  forgetful _ _ := rfl
  covers h := by
    rcases reader_eq_some_iff.mp h with ⟨hRead, rfl⟩
    exact (render_prefix_of_read? hRead).2

/- An occurrence of links is a link that can be written. -/
theorem covered_of_mem_cut
    {t : Text}
    {o : Occurrence Link}
    (ho : o ∈ (t.cut reader).occurrences) :
    o.value.IsWritable ∧ o.covered = o.value.render := by
  rcases reader_eq_some_iff.mp
    ((Text.cutsTo_cut reader_steady t).found ho) with
    ⟨hRead, hCovered⟩
  exact ⟨(read?_eq_some_iff.mp hRead).1, hCovered⟩

theorem labelledReader_steady : labelledReader.Steady where
  forgetful _ _ := rfl
  covers h := by
    rcases labelledReader_eq_some_iff.mp h with ⟨hRead, rfl, -⟩
    exact (render_prefix_of_read? hRead).2

end Link

------------------------------------------------------------
-- Placeholders
------------------------------------------------------------

namespace Placeholder

/- A name is a word, or two words with a dot between them. -/
inductive IsName : Text → Prop
| word {w : Text}
    (hNil : w ≠ [])
    (hWord : ∀ c ∈ w, isWord c = true) : IsName w
| dotted {v w : Text}
    (hFront : v ≠ [])
    (hNil : w ≠ [])
    (hFrontWord : ∀ c ∈ v, isWord c = true)
    (hWord : ∀ c ∈ w, isWord c = true) : IsName (v ++ '.' :: w)

/- A placeholder can be written if its name is one. -/
def IsWritable (p : Placeholder) : Prop :=
  IsName p.name

/- Whether a character can stand in a placeholder's name. -/
def IsNameChar (c : Char) : Prop :=
  isWord c = true ∨ c = '.'

theorem IsName.isNameChar
    {name : Text}
    (hName : IsName name) : ∀ c ∈ name, IsNameChar c := by
  cases hName with
  | word hNil hWord => exact fun c hc => Or.inl (hWord c hc)
  | dotted hFront hNil hFrontWord hWord =>
      intro c hc
      rcases List.mem_append.mp hc with hc | hc
      · exact Or.inl (hFrontWord c hc)
      · rcases List.mem_cons.mp hc with rfl | hc
        · exact Or.inr rfl
        · exact Or.inl (hWord c hc)

/-
  Behind a word at the front, a name is read and stands at
  the front of the text.
-/
theorem readName_spec
    {t name rest : Text}
    (hFirst : t.takeWhile isWord ≠ [])
    (h : readName t = (name, rest)) :
    IsName name ∧ t = name ++ rest := by
  have hWord : ∀ u : Text, ∀ c ∈ u.takeWhile isWord,
      isWord c = true := fun u c hc => List.mem_takeWhile_imp hc
  have hText := List.takeWhile_append_dropWhile
    (p := isWord) (l := t)
  rw [readName] at h
  split at h
  · next u hDot =>
    rw [hDot] at hText
    split at h
    · cases h
      exact ⟨.word hFirst (hWord t), hText.symm⟩
    · next c cs hSecond =>
      cases h
      have hBehind := List.takeWhile_append_dropWhile
        (p := isWord) (l := u)
      rw [hSecond] at hBehind
      rw [← hBehind] at hText
      refine ⟨.dotted hFirst (List.cons_ne_nil c cs) (hWord t)
        (hSecond ▸ hWord u), ?_⟩
      simpa using hText.symm
  · cases h
    exact ⟨.word hFirst (hWord t), hText.symm⟩

/-
  A placeholder that is read is written at the front of the
  text.
-/
theorem render_prefix_of_read?
    {t : Text}
    {p : Placeholder}
    (h : read? t = some p) :
    p.IsWritable ∧ p.render <+: t := by
  rw [read?] at h
  split at h
  · cases h
  · next u hAfter =>
    split_ifs at h with hEmpty
    split at h
    · next name rest hRead =>
      cases h
      rcases readName_spec (by simpa using hEmpty) hRead with
        ⟨hName, rfl⟩
      refine ⟨hName, rest, ?_⟩
      rw [Text.eq_append_of_after? hAfter]
      simp [render]
    · cases h

theorem IsName.takeWhile_ne_nil
    {name : Text}
    (hName : IsName name)
    (u : Text) : (name ++ u).takeWhile isWord ≠ [] := by
  have hHead :
      ∀ w u : Text, w ≠ [] → (∀ c ∈ w, isWord c = true) →
        (w ++ u).takeWhile isWord ≠ [] := by
    intro w u hNil hWord hEmpty
    rw [List.takeWhile_append_of_pos hWord] at hEmpty
    exact hNil (List.append_eq_nil_iff.mp hEmpty).1
  cases hName with
  | word hNil hWord => exact hHead _ u hNil hWord
  | dotted hFront hNil hFrontWord hWord =>
      rw [List.append_assoc]
      exact hHead _ _ hFront hFrontWord

/- A name is read up to the brace behind it. -/
theorem readName_append
    {name : Text}
    (hName : IsName name)
    (u : Text) :
    readName (name ++ '\x7d' :: u) = (name, '\x7d' :: u) := by
  have hRun :
      ∀ (w : Text) (c : Char) (u : Text),
        (∀ d ∈ w, isWord d = true) → isWord c = false →
          (w ++ c :: u).takeWhile isWord = w ∧
            (w ++ c :: u).dropWhile isWord = c :: u := by
    intro w c u hWord hc
    have hStop := Text.run_append (u := c :: u) hWord (by simpa)
    exact ⟨congrArg Prod.fst hStop, congrArg Prod.snd hStop⟩
  cases hName with
  | word hNil hWord =>
      rcases hRun name '\x7d' u hWord (by decide) with ⟨hTake, hDrop⟩
      rw [readName, hDrop, hTake]
      rfl
  | @dotted v w hFront hNil hFrontWord hWord =>
      rcases List.exists_cons_of_ne_nil hNil with ⟨c, cs, rfl⟩
      rcases hRun (c :: cs) '\x7d' u hWord (by decide) with
        ⟨hTake, hDrop⟩
      rcases hRun v '.' (c :: cs ++ '\x7d' :: u) hFrontWord
        (by decide) with ⟨hFirst, hRest⟩
      rw [List.append_assoc, List.cons_append, readName, hRest,
        hFirst]
      simp only [hTake, hDrop]

/- Exactly the placeholders that can be written are read. -/
theorem read?_eq_some_iff
    {t : Text}
    {p : Placeholder} :
    read? t = some p ↔ p.IsWritable ∧ p.render <+: t := by
  refine ⟨render_prefix_of_read?, ?_⟩
  rintro ⟨hName, u, rfl⟩
  have hAfter :
      Text.after? opening (p.render ++ u) =
        some (p.name ++ '\x7d' :: u) :=
    Text.after?_eq_some_iff.mpr (by simp [render])
  have hFirst :=
    IsName.takeWhile_ne_nil hName ('\x7d' :: u)
  rw [read?, hAfter]
  dsimp only
  rw [if_neg (by simpa using hFirst), readName_append hName]
  rfl

theorem reader_eq_some_iff
    {before : Option Char}
    {t x : Text}
    {p : Placeholder} :
    reader before t = some (p, x) ↔
      read? t = some p ∧ x = p.render := by
  simp only [reader, Option.map_eq_some_iff, Prod.mk.injEq]
  constructor
  · rintro ⟨_, hRead, rfl, rfl⟩
    exact ⟨hRead, rfl⟩
  · rintro ⟨hRead, rfl⟩
    exact ⟨p, hRead, rfl, rfl⟩

theorem reader_steady : reader.Steady where
  forgetful _ _ := rfl
  covers h := by
    rcases reader_eq_some_iff.mp h with ⟨hRead, rfl⟩
    exact (render_prefix_of_read? hRead).2

/- An occurrence of placeholders is one as it is written. -/
theorem covered_of_mem_cut
    {t : Text}
    {o : Occurrence Placeholder}
    (ho : o ∈ (t.cut reader).occurrences) :
    (∀ c ∈ o.value.name, IsNameChar c) ∧
      o.covered = o.value.render := by
  rcases reader_eq_some_iff.mp
    ((Text.cutsTo_cut reader_steady t).found ho) with
    ⟨hRead, hCovered⟩
  exact ⟨IsName.isNameChar (read?_eq_some_iff.mp hRead).1,
    hCovered⟩

end Placeholder

end SourceDocs
