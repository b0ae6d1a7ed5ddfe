import SourceDocs.Proofs.Markdown.LinkStripping

/-
  The headings of a text around one place of it.

  What is written at a place is seen by the headings on its
  lines only, and of a heading with a link in it the slug
  sees the label only.

  Key definitions include:
    * `SourceDocs.Heading.slugs`
    * `SourceDocs.Text.lastLine`
    * `SourceDocs.Text.firstLine`

  Main results:
    * `SourceDocs.Heading.exists_all_around`
    * `SourceDocs.Heading.slugs_line`
-/

------------------------------------------------------------
-- The Lines Of A Place
------------------------------------------------------------

namespace SourceDocs

namespace Text

/- The beginning of the line that a text ends on. -/
def lastLine (t : Text) : Text :=
  afterLast '\n' t

/- The rest of the line that a text starts on. -/
def firstLine (t : Text) : Text :=
  t.takeWhile (· ≠ '\n')

theorem not_mem_lastLine (t : Text) : '\n' ∉ lastLine t :=
  not_mem_afterLast _ _

theorem not_mem_firstLine (t : Text) : '\n' ∉ firstLine t :=
  not_mem_takeWhile_ne _ _

/- A text is one line or has lines before its last. -/
theorem lastLine_cases (t : Text) :
    lastLine t = t ∨ ∃ p, t = p ++ '\n' :: lastLine t := by
  rw [lastLine, afterLast]
  cases hDrop : t.reverse.dropWhile (· ≠ '\n') with
  | nil =>
      left
      have hAll := List.takeWhile_append_dropWhile
        (p := (· ≠ '\n')) (l := t.reverse)
      rw [hDrop, List.append_nil] at hAll
      rw [hAll, List.reverse_reverse]
  | cons c u =>
      right
      rcases eq_of_dropWhile_ne hDrop with ⟨-, hEq⟩
      refine ⟨u.reverse, ?_⟩
      have hText := congrArg List.reverse hEq
      simpa using hText

/- A text is one line or has lines behind its first. -/
theorem firstLine_cases (t : Text) :
    firstLine t = t ∨ ∃ q, t = firstLine t ++ '\n' :: q := by
  rw [firstLine]
  cases hDrop : t.dropWhile (· ≠ '\n') with
  | nil =>
      left
      have hAll := List.takeWhile_append_dropWhile
        (p := (· ≠ '\n')) (l := t)
      rwa [hDrop, List.append_nil] at hAll
  | cons c q =>
      right
      exact ⟨q, (eq_of_dropWhile_ne hDrop).2⟩

end Text

------------------------------------------------------------
-- Headings Line By Line
------------------------------------------------------------

namespace Heading

theorem all_append_line
    (p t : Text) : all (p ++ '\n' :: t) = all p ++ all t := by
  rw [all, List.splitOn_append_cons_self, List.filterMap_append,
    all, all]

theorem all_of_line
    {line : Text}
    (hLine : '\n' ∉ line) : all line = (ofLine? line).toList := by
  rw [all, List.splitOn_eq_singleton hLine]
  cases hHeading : ofLine? line <;> simp [hHeading]

/- The lines before the last one have headings of their own. -/
theorem exists_all_append_lastLine (t : Text) :
    ∃ hs, ∀ x, all (t ++ x) = hs ++ all (Text.lastLine t ++ x) := by
  rcases Text.lastLine_cases t with hOne | ⟨p, hp⟩
  · exact ⟨[], fun x => by rw [hOne, List.nil_append]⟩
  · refine ⟨all p, fun x => ?_⟩
    conv =>
      lhs
      rw [hp, List.append_assoc, List.cons_append]
    rw [all_append_line]

/- The lines behind the first one have their own as well. -/
theorem exists_all_append_firstLine (t : Text) :
    ∃ hs, ∀ x, all (x ++ t) = all (x ++ Text.firstLine t) ++ hs := by
  rcases Text.firstLine_cases t with hOne | ⟨q, hq⟩
  · exact ⟨[], fun x => by rw [hOne, List.append_nil]⟩
  · refine ⟨all q, fun x => ?_⟩
    conv =>
      lhs
      rw [hq, ← List.append_assoc]
    rw [all_append_line]

/- Only the headings on the lines of a place depend on it. -/
theorem exists_all_around
    (before after : Text) :
    ∃ hs hs', ∀ x,
      all (before ++ x ++ after) =
        hs ++ all (Text.lastLine before ++ x ++
          Text.firstLine after) ++ hs' := by
  rcases exists_all_append_lastLine before with ⟨hs, hBefore⟩
  rcases exists_all_append_firstLine after with ⟨hs', hAfter⟩
  refine ⟨hs, hs', fun x => ?_⟩
  rw [List.append_assoc, hBefore, ← List.append_assoc, hAfter]
  simp only [List.append_assoc]

------------------------------------------------------------
-- Slugs Of A Line
------------------------------------------------------------

def slugs (t : Text) : List Text :=
  (all t).map slug

theorem map_slug_anchors (t : Text) :
    (Anchor.all t).map Anchor.slug = slugs t := by
  simp only [slugs, Anchor.all, List.map_map,
    Function.comp_def, slug_ofHeading]

/- A line that is a heading up to a link starts as one. -/
theorem exists_front_of_isSome
    {a x : Text}
    (hHeading : (ofLine? (a ++ '[' :: x)).isSome = true) :
    ∃ blank front, a = '#' :: '#' :: blank :: front ∧
      isSpaceOrTab blank = true := by
  match a, hHeading with
  | [], h => simp [ofLine?] at h
  | [_], h => simp [ofLine?] at h
  | [_, _], h =>
      rw [List.cons_append, List.cons_append, List.nil_append,
        ofLine?.eq_def] at h
      split at h
      · next hEq =>
        simp only [List.cons.injEq] at hEq
        rcases hEq with ⟨-, -, rfl, -⟩
        simp [isSpaceOrTab] at h
      · simp at h
  | c :: d :: blank :: front, h =>
      rw [List.cons_append, List.cons_append, List.cons_append,
        ofLine?.eq_def] at h
      split at h
      · next hEq =>
        simp only [List.cons.injEq] at hEq
        rcases hEq with ⟨rfl, rfl, rfl, -⟩
        split_ifs at h with hBlank
        · exact ⟨blank, front, rfl, hBlank⟩
        · simp at h
      · simp at h

/-
  The slug of a heading whose front leaves no link open is
  that of the stripped parts in a row.
-/
theorem slugs_line
    {blank : Char}
    {front z : Text}
    (hBlank : isSpaceOrTab blank = true)
    (hClosed :
      Link.leavesOpen ('#' :: '#' :: blank :: front) = false)
    (hNil : z ≠ [])
    (hLine : '\n' ∉ '#' :: '#' :: blank :: (front ++ z)) :
    slugs ('#' :: '#' :: blank :: (front ++ z)) =
      [slugOf (Link.strip front ++ Link.strip z)] := by
  have hOpen : '[' ∉ ['#', '#', blank] := by
    have hNe : '[' ≠ blank := by
      rintro rfl
      simp [isSpaceOrTab] at hBlank
    simp [hNe]
  have hStrip :
      Link.strip (front ++ z) =
        Link.strip front ++ Link.strip z := by
    have hParts := Link.strip_append hClosed z
    have hWhole :=
      Link.strip_append_of_not_mem_open hOpen (front ++ z)
    have hFront := Link.strip_append_of_not_mem_open hOpen front
    simp only [List.cons_append, List.nil_append]
      at hParts hWhole hFront
    rw [hWhole, hFront] at hParts
    simpa using hParts
  have hHeading :
      ofLine? ('#' :: '#' :: blank :: (front ++ z)) =
        some (Text.trim (front ++ z)) := by
    have hBody : front ++ z ≠ [] :=
      List.append_ne_nil_of_right_ne_nil front hNil
    rcases List.exists_cons_of_ne_nil hBody with ⟨c, cs, hEq⟩
    rw [hEq, ofLine?, if_pos hBlank]
  rw [slugs, all_of_line hLine, hHeading, Option.toList_some,
    List.map_singleton, slug_trim, hStrip]

/- A link adds to a slug what its label adds. -/
theorem flatMap_slugPart_strip_render
    {label target : Text}
    (hLabel : ']' ∉ label)
    (hNil : label ≠ [])
    (hTarget : ')' ∉ target) :
    (Link.strip (Link.render ⟨label, target⟩)).flatMap slugPart =
      label.flatMap slugPart := by
  by_cases hEmpty : target = []
  · have hBrackets :
        slugPart '[' = [] ∧ slugPart ']' = [] ∧
          slugPart '(' = [] ∧ slugPart ')' = [] := by
      decide +kernel
    subst hEmpty
    rw [Link.strip_render_nil hLabel, Link.render]
    simp [hBrackets]
  · rw [Link.strip_render ⟨hLabel, hTarget, hEmpty⟩ hNil]

/- Texts with the same parts come to the same slug. -/
theorem slugOf_congr
    {t u : Text}
    (hParts : t.flatMap slugPart = u.flatMap slugPart) :
    slugOf t = slugOf u := by
  rw [slugOf, slugOf, hParts]

end Heading

end SourceDocs
