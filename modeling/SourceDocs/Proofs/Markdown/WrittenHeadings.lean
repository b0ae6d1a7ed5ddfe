import SourceDocs.Proofs.Markdown.HeadingLines
import SourceDocs.Proofs.Text.Words

/-
  How headings are written.

  A heading stands on a line of its own, behind two number
  signs and spaces or tabs. More of them may follow it, and a
  carriage return. A heading is trimmed, so it is the same
  however the blanks around it are shared out.

  Key definitions include:
    * `SourceDocs.Heading.IsWrittenOn`

  Main results:
    * `SourceDocs.Heading.ofLine?_eq_some_iff`
    * `SourceDocs.Heading.mem_all_iff`
-/

------------------------------------------------------------
-- Heading Lines
------------------------------------------------------------

namespace SourceDocs

theorem isBlank_of_isSpaceOrTab
    {c : Char}
    (hc : isSpaceOrTab c = true) : isBlank c = true := by
  rw [isSpaceOrTab, Bool.or_eq_true, beq_iff_eq, beq_iff_eq] at hc
  rcases hc with rfl | rfl <;> decide

namespace Heading

/- What starts the line of a heading. -/
def sign : Text :=
  "##".toList

/- Whether a line is the line of a heading. -/
def IsWrittenOn (line heading : Text) : Prop :=
  ∃ blanks raw back ending : Text,
    line = sign ++ blanks ++ raw ++ back ++ ending ∧
      blanks ≠ [] ∧ (∀ c ∈ blanks, isSpaceOrTab c = true) ∧
      raw ≠ [] ∧ (∀ c ∈ back, isSpaceOrTab c = true) ∧
      (ending = [] ∨ ending = ['\r']) ∧
      heading = Text.trim raw

/- A heading is read on its lines and on no other ones. -/
theorem ofLine?_eq_some_iff
    {line heading : Text} :
    ofLine? line = some heading ↔ IsWrittenOn line heading := by
  constructor
  · intro h
    unfold ofLine? at h
    split at h
    · next blank c cs =>
        split_ifs at h with hBlank
        refine ⟨[blank], c :: cs, [], [], ?_, by simp,
          by simpa using hBlank, by simp, by simp, Or.inl rfl,
          (Option.some.inj h).symm⟩
        simp [sign]
    · cases h
  · rintro ⟨blanks, raw, back, ending, rfl, hNil, hBlanks, hRaw,
      hBack, hEnding, rfl⟩
    rcases List.exists_cons_of_ne_nil hNil with
      ⟨blank, blanks, rfl⟩
    rw [List.forall_mem_cons] at hBlanks
    have hFront : ∀ c ∈ blanks, isBlank c = true :=
      fun c hc => isBlank_of_isSpaceOrTab (hBlanks.2 c hc)
    have hBehind : ∀ c ∈ back ++ ending, isBlank c = true := by
      intro c hc
      rcases List.mem_append.mp hc with hc | hc
      · exact isBlank_of_isSpaceOrTab (hBack c hc)
      · rcases hEnding with rfl | rfl
        · cases hc
        · rw [List.mem_singleton.mp hc]
          decide
    have hTrim := Text.trim_blanks hFront hBehind raw
    have hBody : blanks ++ raw ++ (back ++ ending) ≠ [] := by
      simp [hRaw]
    rcases List.exists_cons_of_ne_nil hBody with ⟨c, cs, hCons⟩
    have hLine :
        sign ++ blank :: blanks ++ raw ++ back ++ ending =
          '#' :: '#' :: blank :: c :: cs := by
      rw [← hCons]
      simp [sign]
    rw [hLine, ofLine?, if_pos hBlanks.1, ← hCons, hTrim]

/- The headings of a text are those written on its lines. -/
theorem mem_all_iff
    {t heading : Text} :
    heading ∈ all t ↔
      ∃ line ∈ t.splitOn '\n', IsWrittenOn line heading := by
  rw [all, List.mem_filterMap]
  simp only [ofLine?_eq_some_iff]

end Heading

end SourceDocs
