import SourceDocs.Proofs.LinkRepair.Targets

/-
  Links to documents are read back as they were meant.

  For most paths the target that repair writes is parted
  again into a path that leads to the document and the
  anchor that was chosen.

  Key definitions include:
    * `SourceDocs.DocPath.IsLinkable`
    * `SourceDocs.Corpus.LeadsToDocument`

  Main results:
    * `SourceDocs.splitTarget_relativeLink`
    * `SourceDocs.Corpus.Reaches.leadsToDocument`
-/

------------------------------------------------------------
-- Linkable Paths
------------------------------------------------------------

namespace SourceDocs

/-
  A path that links can lead to: it is normal, it does not
  end a link or start an anchor or a placeholder, no blank
  in it but spaces is lost, and codes are not mixed up with
  those of spaces.
-/
structure DocPath.IsLinkable (path : Text) : Prop where
  normal : normalize path = path
  hash : '#' ∉ path
  close : ')' ∉ path
  brace : '\x7b' ∉ path
  blanks : ∀ c ∈ path, isBlank c = true → c = ' '
  codes : ' ' ∈ path → '%' ∉ path

-- The blanks are tested along the path: a quantifier over
-- characters would be decided by going through all of them.
theorem DocPath.all_blanks_iff (path : Text) :
    path.all (fun c => !isBlank c || c == ' ') = true ↔
      ∀ c ∈ path, isBlank c = true → c = ' ' := by
  simp only [List.all_eq_true, Bool.or_eq_true, beq_iff_eq,
    Bool.not_eq_true', or_iff_not_imp_left, Bool.not_eq_false]

instance (path : Text) : Decidable (DocPath.IsLinkable path) :=
  have hBlanks := DocPath.all_blanks_iff path
  decidable_of_iff
    (DocPath.normalize path = path ∧ '#' ∉ path ∧ ')' ∉ path ∧
      '\x7b' ∉ path ∧
      path.all (fun c => !isBlank c || c == ' ') = true ∧
      (' ' ∈ path → '%' ∉ path))
    ⟨fun ⟨h₁, h₂, h₃, h₄, h₅, h₆⟩ =>
        ⟨h₁, h₂, h₃, h₄, hBlanks.mp h₅, h₆⟩,
      fun h => ⟨h.normal, h.hash, h.close, h.brace,
        hBlanks.mpr h.blanks, h.codes⟩⟩

------------------------------------------------------------
-- Reading A Target
------------------------------------------------------------

theorem Text.trim_eq_self
    {t : Text}
    (hBlanks : ∀ c ∈ t, isBlank c = false) : trim t = t := by
  have hStart : ∀ u : Text, (∀ c ∈ u, isBlank c = false) →
      u.dropWhile isBlank = u := by
    intro u hu
    cases u with
    | nil => rfl
    | cons c u =>
        rw [List.dropWhile_cons_of_neg]
        simp [hu c List.mem_cons_self]
  rw [trim, trimStart, hStart t hBlanks, trimEnd, dropEndWhile,
    hStart t.reverse, List.reverse_reverse]
  exact fun c hc => hBlanks c (List.mem_reverse.mp hc)

theorem isLineAnchor_of_isSlug
    {slug : Text}
    (hSlug : Heading.IsSlug slug) : isLineAnchor slug = false := by
  rw [isLineAnchor.eq_def]
  split
  · next digits =>
    have hChar := hSlug.chars 'L' List.mem_cons_self
    exact absurd hChar (by decide)
  · rfl

theorem Heading.isBlank_of_isSlugChar
    {c : Char}
    (hChar : isSlugChar c = true) : isBlank c = false := by
  apply of_isSlugChar _ hChar
  decide +kernel

section ReadingBack

variable {current goal : Text}
variable {anchor : Option Text}

/- The path of a link to a document holds no blanks. -/
theorem isBlank_of_mem_relativeLink
    (hBlanks : ∀ c ∈ goal, isBlank c = true → c = ' ')
    {c : Char}
    (hc : c ∈ DocPath.relativeLink current goal none) :
    isBlank c = false := by
  rcases DocPath.mem_relativeLink hc with hc | ⟨hc, hSpace⟩
  · have hNone :
        ['.', '/', '%', '2', '0'].any isBlank = false := by
      decide
    exact Bool.eq_false_iff.mpr (List.any_eq_false.mp hNone c hc)
  · cases hBlank : isBlank c with
    | false => rfl
    | true => exact absurd (hBlanks c hc hBlank) hSpace

theorem hash_not_mem_relativeLink
    (current : Text)
    (hHash : '#' ∉ goal) :
    '#' ∉ DocPath.relativeLink current goal none := by
  intro hMem
  rcases DocPath.mem_relativeLink hMem with hc | ⟨hc, -⟩
  · simp at hc
  · exact hHash hc

/- The target of a link is parted where it was put together. -/
theorem splitTarget_relativeLink
    (current : Text)
    (hHash : '#' ∉ goal)
    (hBlanks : ∀ c ∈ goal, isBlank c = true → c = ' ')
    (hAnchor : ∀ a, anchor = some a → Heading.IsSlug a) :
    splitTarget
        (Text.trim (DocPath.relativeLink current goal anchor)) =
      (DocPath.relativeLink current goal none, anchor) := by
  have hPath : ∀ c ∈ DocPath.relativeLink current goal none,
      isBlank c = false :=
    fun c hc => isBlank_of_mem_relativeLink hBlanks hc
  have hLink := hash_not_mem_relativeLink current hHash
  rw [DocPath.relativeLink_eq]
  cases anchor with
  | none =>
      rw [DocPath.fragment, List.append_nil,
        Text.trim_eq_self hPath, splitTarget, Text.cutAtChar?,
        Text.dropWhile_ne_eq_nil hLink]
  | some slug =>
      have hSlug := hAnchor slug rfl
      rcases List.exists_cons_of_ne_nil hSlug.ne_nil with
        ⟨c, cs, rfl⟩
      have hPlain : ∀ d ∈ c :: cs, isBlank d = false :=
        fun d hd => Heading.isBlank_of_isSlugChar
          (hSlug.chars d hd)
      have hWhole :
          ∀ d ∈ DocPath.relativeLink current goal none ++
              '#' :: c :: cs, isBlank d = false := by
        intro d hd
        rcases List.mem_append.mp hd with hd | hd
        · exact hPath d hd
        · rcases List.mem_cons.mp hd with rfl | hd
          · decide
          · exact hPlain d hd
      rw [DocPath.fragment, Text.trim_eq_self hWhole, splitTarget,
        Text.cutAtChar?, Text.dropWhile_ne_append hLink,
        Text.takeWhile_ne_append hLink]
      · simp only [Text.trim_eq_self hPath,
          Text.trim_eq_self hPlain]
        rfl
      · exact List.cons_ne_nil c cs

end ReadingBack

------------------------------------------------------------
-- Targets That Are Read Back
------------------------------------------------------------

namespace Corpus

variable {corpus : Corpus}
variable {current target : Text}

/- No path that can be linked to opens a placeholder. -/
theorem brace_not_mem_of_linkable
    (hPaths : ∀ path ∈ corpus.paths, DocPath.IsLinkable path) :
    ∀ path ∈ corpus.paths, '\x7b' ∉ path :=
  fun path hPath => (hPaths path hPath).brace

theorem close_not_mem_of_linkable
    (hPaths : ∀ path ∈ corpus.paths, DocPath.IsLinkable path) :
    ∀ path ∈ corpus.paths, ')' ∉ path :=
  fun path hPath => (hPaths path hPath).close

/- The path of a link to a document leads there. -/
theorem resolve_mem_paths
    (hPaths : ∀ path ∈ corpus.paths, DocPath.IsLinkable path)
    (hCurrent : current ∈ corpus.paths)
    {document : Text}
    (hMem : document ∈ corpus.paths) :
    let resolved :=
      DocPath.resolve current
        (DocPath.relativeLink current document none)
    resolved ∈ corpus.paths ∨
      PercentCode.decode resolved ∈ corpus.paths := by
  intro resolved
  have hStart := (hPaths current hCurrent).normal
  have hGoal := hPaths document hMem
  by_cases hSpace : ' ' ∈ document
  · right
    simp only [resolved, DocPath.decode_resolve_relativeLink
      hStart hGoal.normal (hGoal.codes hSpace)]
    exact hMem
  · left
    simp only [resolved, DocPath.resolve_relativeLink hStart
      hGoal.normal hSpace]
    exact hMem

/-
  A target in `current` leads to a document: its path is one
  of the corpus, maybe once it is decoded, and its anchor
  names no line of a source file.
-/
structure LeadsToDocument
    (corpus : Corpus)
    (current target : Text) : Prop where
  anchor : (splitTarget target).2.any isLineAnchor = false
  path :
    let resolved := DocPath.resolve current (splitTarget target).1
    resolved ∈ corpus.paths ∨
      PercentCode.decode resolved ∈ corpus.paths

instance (corpus : Corpus) (current target : Text) :
    Decidable (corpus.LeadsToDocument current target) :=
  decidable_of_iff
    ((splitTarget target).2.any isLineAnchor = false ∧
      let resolved := DocPath.resolve current (splitTarget target).1
      resolved ∈ corpus.paths ∨
        PercentCode.decode resolved ∈ corpus.paths)
    ⟨fun ⟨h₁, h₂⟩ => ⟨h₁, h₂⟩, fun h => ⟨h.anchor, h.path⟩⟩

/- A target that reaches the corpus leads to a document. -/
theorem Reaches.leadsToDocument
    (hPaths : ∀ path ∈ corpus.paths, DocPath.IsLinkable path)
    (hCurrent : current ∈ corpus.paths)
    (hReaches : corpus.Reaches current target) :
    corpus.LeadsToDocument current (Text.trim target) := by
  cases hReaches with
  | @intro document anchor hMem hAnchor =>
      have hParts :=
        splitTarget_relativeLink current (hPaths document hMem).hash
          (hPaths document hMem).blanks hAnchor
      constructor
      · rw [hParts]
        cases anchor with
        | none => rfl
        | some slug =>
            exact isLineAnchor_of_isSlug (hAnchor slug rfl)
      · rw [hParts]
        exact resolve_mem_paths hPaths hCurrent hMem

end Corpus

end SourceDocs
