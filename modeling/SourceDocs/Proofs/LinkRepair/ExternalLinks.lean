import SourceDocs.Proofs.LinkRepair.Targets
import SourceDocs.Proofs.Text.Words

/-
  Links that leave the corpus.

  A target with a scheme in front leads out of the corpus.
  Only the schemes of the web are known as such, and only in
  small letters. With any other scheme a link is judged like
  a path, and stays where it names neither a document nor a
  line of a source.

  Key definitions include:
    * `SourceDocs.IsScheme`
    * `SourceDocs.webSchemes`

  Main results:
    * `SourceDocs.resolveLink_eq_keep_iff`
    * `SourceDocs.isWebAddress_iff_of_isScheme`
    * `SourceDocs.resolveLink_eq_keep_iff_of_isScheme`
-/

------------------------------------------------------------
-- Links That Are Kept
------------------------------------------------------------

namespace SourceDocs

section Keeping

variable {corpus : Corpus}
variable {inventory : Inventory}
variable {current : Text}

/-
  A link stays if its target is empty or a web address, if
  it has no path, or if it names neither a line of a source
  nor a document.
-/
theorem resolveLink_eq_keep_iff (link : Link) :
    let target := Text.trim link.target
    let (path, anchor) := splitTarget target
    resolveLink corpus inventory current link = .keep ↔
      target = [] ∨ isWebAddress target = true ∨ path = [] ∨
        anchor.any isLineAnchor = false ∧
          namesDocument path = false := by
  intro target
  unfold resolveLink
  dsimp only
  by_cases hSkip : target = [] ∨ isWebAddress target = true
  · rw [if_pos hSkip]
    rcases hSkip with hNil | hWeb
    · simp [hNil]
    · simp [hWeb]
  · rw [if_neg hSkip]
    rw [not_or] at hSkip
    by_cases hPath : (splitTarget target).1 = []
    · simp [target, hPath]
    · rw [if_neg hPath]
      cases hLine : (splitTarget target).2.any isLineAnchor with
      | true => simp [target, hSkip, hPath]
      | false =>
          cases hNames : namesDocument (splitTarget target).1 with
          | false => simp [target]
          | true =>
              simp [target, hSkip, hPath, resolveDocument_ne_keep]

end Keeping

------------------------------------------------------------
-- Schemes
------------------------------------------------------------

/- Characters that a scheme is made of. -/
def isSchemeChar (c : Char) : Bool :=
  isAsciiLetter c || isAsciiDigit c || c == '+' || c == '-' ||
    c == '.'

/- What stands before the `://` of an address. -/
structure IsScheme (scheme : Text) : Prop where
  letter : scheme.head?.any isAsciiLetter = true
  chars : ∀ c ∈ scheme, isSchemeChar c = true

instance (scheme : Text) : Decidable (IsScheme scheme) :=
  decidable_of_iff
    (scheme.head?.any isAsciiLetter = true ∧
      ∀ c ∈ scheme, isSchemeChar c = true)
    ⟨fun ⟨h₁, h₂⟩ => ⟨h₁, h₂⟩, fun h => ⟨h.letter, h.chars⟩⟩

/- The schemes of the web. -/
def webSchemes : List Text :=
  ["http".toList, "https".toList]

namespace IsScheme

variable {scheme : Text}

theorem colon_not_mem (h : IsScheme scheme) : ':' ∉ scheme :=
  fun hMem => absurd (h.chars _ hMem) (by decide)

theorem hash_not_mem (h : IsScheme scheme) : '#' ∉ scheme :=
  fun hMem => absurd (h.chars _ hMem) (by decide)

/- A scheme starts with a character that is no blank. -/
theorem exists_cons (h : IsScheme scheme) :
    ∃ c cs, scheme = c :: cs ∧ isBlank c = false := by
  cases scheme with
  | nil => exact absurd h.letter (by decide)
  | cons c cs =>
      refine ⟨c, cs, rfl, isBlank_of_isWord ?_⟩
      apply isWord_of_isAsciiWord
      have hLetter : isAsciiLetter c = true := h.letter
      rw [isAsciiWord, hLetter]
      rfl

end IsScheme

/- Nothing but a web scheme makes a web address. -/
theorem isWebAddress_iff_of_isScheme
    {scheme : Text}
    (hScheme : IsScheme scheme)
    (rest : Text) :
    isWebAddress (scheme ++ "://".toList ++ rest) = true ↔
      scheme ∈ webSchemes := by
  have hFront :
      ∀ web ∈ webSchemes,
        web ++ "://".toList <+: scheme ++ "://".toList ++ rest ↔
          scheme = web := by
    intro web hWeb
    have hColon : ':' ∉ web := by
      revert web
      decide
    constructor
    · rintro ⟨u, hEq⟩
      rw [List.append_assoc, List.append_assoc] at hEq
      exact (Text.append_mark_inj hScheme.colon_not_mem hColon
        hEq.symm).1
    · rintro rfl
      exact List.prefix_append _ rest
  rw [isWebAddress, Bool.or_eq_true, List.isPrefixOf_iff_prefix,
    List.isPrefixOf_iff_prefix]
  have hHttp := hFront "http".toList (by decide)
  have hHttps := hFront "https".toList (by decide)
  rw [webSchemes, List.mem_cons, List.mem_singleton, ← hHttp,
    ← hHttps]
  rfl

/- A target that starts with a character has it in its path. -/
theorem fst_splitTarget_ne_nil
    {c : Char}
    {cs : Text}
    (hBlank : isBlank c = false)
    (hHash : c ≠ '#') :
    (splitTarget (c :: cs)).1 ≠ [] := by
  unfold splitTarget
  cases hCut : Text.cutAtChar? '#' (c :: cs) with
  | none => exact List.cons_ne_nil c cs
  | some parts =>
      have hText := Text.eq_append_of_cutAtChar? hCut
      have hMem : c ∈ parts.1 := by
        cases hFront : parts.1 with
        | nil =>
            rw [hFront, List.nil_append] at hText
            exact absurd (List.cons.inj hText).1 hHash
        | cons d ds =>
            rw [hFront] at hText
            rw [(List.cons.inj hText).1]
            exact List.mem_cons_self
      rcases Text.exists_trim_eq parts.1 with
        ⟨a, b, hTrim, hBefore, hBehind⟩
      intro hNil
      have hNil' : Text.trim parts.1 = [] := hNil
      rw [hTrim, hNil', List.append_nil] at hMem
      rcases List.mem_append.mp hMem with hMem | hMem
      · simp [hBefore c hMem] at hBlank
      · simp [hBehind c hMem] at hBlank

/-
  A link with a scheme stays exactly if the scheme is one of
  the web, or if the link names neither a line of a source
  nor a document.
-/
theorem resolveLink_eq_keep_iff_of_isScheme
    (corpus : Corpus)
    (inventory : Inventory)
    (current : Text)
    {link : Link}
    {scheme rest : Text}
    (hScheme : IsScheme scheme)
    (hTarget :
      Text.trim link.target = scheme ++ "://".toList ++ rest) :
    let (path, anchor) := splitTarget (Text.trim link.target)
    resolveLink corpus inventory current link = .keep ↔
      scheme ∈ webSchemes ∨
        anchor.any isLineAnchor = false ∧
          namesDocument path = false := by
  rcases hScheme.exists_cons with ⟨c, cs, hEq, hBlank⟩
  have hHash : c ≠ '#' := by
    rintro rfl
    exact hScheme.hash_not_mem (hEq ▸ List.mem_cons_self)
  have hCons :
      Text.trim link.target =
        c :: (cs ++ "://".toList ++ rest) := by
    rw [hTarget, hEq]
    rfl
  have hNil : Text.trim link.target ≠ [] := by
    rw [hCons]
    exact List.cons_ne_nil _ _
  have hPath : (splitTarget (Text.trim link.target)).1 ≠ [] := by
    rw [hCons]
    exact fst_splitTarget_ne_nil hBlank hHash
  have hKeep :=
    @resolveLink_eq_keep_iff corpus inventory current link
  dsimp only at hKeep ⊢
  rw [hKeep, or_iff_right hNil, or_iff_right hPath, hTarget,
    isWebAddress_iff_of_isScheme hScheme]

theorem resolveLink_eq_keep_iff_of_isScheme_each :
    let corpus :=
      Corpus.ofList [⟨"Models.md".toList, "## Order".toList⟩]
    let inventory := Inventory.ofCorpus corpus
    let current : Text := "A.md".toList
    let web : Link :=
      ⟨"Order".toList, " https://example.com/Models.md#L3".toList⟩
    let other : Link :=
      ⟨"Order".toList, "git+ssh://example.com/Models#x".toList⟩
    IsScheme "https".toList ∧ IsScheme "git+ssh".toList ∧
      resolveLink corpus inventory current web = .keep ∧
      resolveLink corpus inventory current other = .keep := by
  intro corpus inventory current web other
  have hWeb : IsScheme "https".toList := by decide
  have hOther : IsScheme "git+ssh".toList := by decide
  have hWebTarget :
      Text.trim web.target =
        "https".toList ++ "://".toList ++
          "example.com/Models.md#L3".toList := by
    decide
  have hOtherTarget :
      Text.trim other.target =
        "git+ssh".toList ++ "://".toList ++
          "example.com/Models#x".toList := by
    decide
  have hWebKept :=
    resolveLink_eq_keep_iff_of_isScheme corpus inventory current
      hWeb hWebTarget
  have hOtherKept :=
    resolveLink_eq_keep_iff_of_isScheme corpus inventory current
      hOther hOtherTarget
  exact ⟨hWeb, hOther, hWebKept.mpr (Or.inl (by decide)),
    hOtherKept.mpr (Or.inr (by decide +kernel))⟩

/-
  A link that leaves the corpus with another scheme, or with
  one in capitals, is sent to a document or demoted.
-/
theorem resolveLink_eq_keep_iff_of_isScheme_changes :
    let corpus :=
      Corpus.ofList [⟨"Models.md".toList, "## Order".toList⟩]
    let inventory := Inventory.ofCorpus corpus
    let fate (target : String) : Resolution :=
      resolveLink corpus inventory "A.md".toList
        ⟨['x'], target.toList⟩
    IsScheme "ftp".toList ∧ IsScheme "HTTPS".toList ∧
      fate "ftp://example.com/Models.md" =
        .redirect "Models.md#order".toList ∧
      fate "HTTPS://example.com/Models.md" =
        .redirect "Models.md#order".toList ∧
      fate "HTTPS://example.com/Gone.md" = .demote ∧
      fate "ftp://example.com/a.png#L3" = .demote := by
  decide +kernel

end SourceDocs
