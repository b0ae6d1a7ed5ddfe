import Mathlib.Data.List.Sort
import SourceDocs.Proofs.Markdown.WrittenHeadings
import SourceDocs.Proofs.Text.Lines

/-
  Where the headings of a text stand.

  The place of a heading is what stands before its line. A
  text has a place for each line with a heading on it, and
  the headings of a list stand at some places of the text in
  one way only: in their order, from the first on.

  Key definitions include:
    * `SourceDocs.Heading.Place`
    * `SourceDocs.Heading.Place.IsIn`
    * `SourceDocs.Heading.places`
    * `SourceDocs.Anchor.ComeFrom`

  Main results:
    * `SourceDocs.Heading.mem_places_iff`
    * `SourceDocs.Anchor.comeFrom_all_iff`
-/

------------------------------------------------------------
-- Places
------------------------------------------------------------

namespace SourceDocs

namespace Heading

/- A heading and what stands before its line. -/
structure Place where
  before : Text
  heading : Text
  deriving DecidableEq, Repr

namespace Place

/-
  Whether a text has a heading at a place: after some whole
  lines comes one that the heading is written on.
-/
def IsIn (t : Text) (p : Place) : Prop :=
  ∃ line next,
    t = p.before ++ line ++ Text.behind next ∧
      Text.IsWholeLines p.before ∧ '\n' ∉ line ∧
      IsWrittenOn line p.heading

/- Whether a line starts earlier than that of another place. -/
def IsEarlier (p q : Place) : Prop :=
  p.before.length < q.before.length

instance : Std.Antisymm IsEarlier :=
  ⟨fun _ _ h h' => absurd h (Nat.lt_asymm h')⟩

instance : Std.Irrefl IsEarlier :=
  ⟨fun _ => Nat.lt_irrefl _⟩

/- The slug of the heading. -/
def slug (p : Place) : Text :=
  Heading.slug p.heading

/- The anchor of the heading. -/
def anchor (p : Place) : Anchor :=
  .ofHeading p.heading

@[simp] theorem slug_anchor (p : Place) :
    p.anchor.slug = p.slug :=
  slug_ofHeading p.heading

/- A place of a text is on its first line or on a later one. -/
theorem isIn_line_iff
    {l : Text}
    (hl : '\n' ∉ l)
    {next : Option Text}
    {p : Place} :
    p.IsIn (l ++ Text.behind next) ↔
      (p.before = [] ∧ IsWrittenOn l p.heading) ∨
      ∃ u ∈ next, ∃ front,
        p.before = l ++ '\n' :: front ∧
          IsIn u ⟨front, p.heading⟩ := by
  constructor
  · rintro ⟨line, rest, hEq, hWhole, hLine, hWritten⟩
    rcases hWhole.cases with hNil | ⟨m, u, hm, hBefore, hFront⟩
    · rw [hNil, List.nil_append] at hEq
      rcases Text.line_inj hl hLine hEq with ⟨rfl, -⟩
      exact Or.inl ⟨hNil, hWritten⟩
    · have hBehind :
          l ++ Text.behind next =
            m ++ Text.behind
              (some (u ++ line ++ Text.behind rest)) := by
        rw [hEq, hBefore]
        simp [Text.behind]
      rcases Text.line_inj hl hm hBehind with ⟨rfl, rfl⟩
      exact Or.inr ⟨_, rfl, u, hBefore,
        line, rest, rfl, hFront, hLine, hWritten⟩
  · rintro (⟨hNil, hWritten⟩ |
      ⟨u, hu, front, hBefore, line, rest, rfl, hFront, hLine,
        hWritten⟩)
    · exact ⟨l, next, by rw [hNil, List.nil_append],
        Or.inl hNil, hl, hWritten⟩
    · cases hu
      refine ⟨line, rest, ?_, hBefore ▸ hFront.cons l, hLine,
        hWritten⟩
      rw [hBefore]
      simp [Text.behind]

end Place

------------------------------------------------------------
-- All Places Of A Text
------------------------------------------------------------

/- The places on lines that stand behind a text. -/
def placesFrom (before : Text) : List Text → List Place
| [] => []
| line :: lines =>
  ((ofLine? line).map (Place.mk before)).toList ++
    placesFrom (before ++ Text.line line) lines

/- The places of a text, in order. -/
def places (t : Text) : List Place :=
  placesFrom [] (t.splitOn '\n')

/- A place on some lines is on the first or on a later one. -/
theorem mem_placesFrom_cons_iff
    {before line : Text}
    {lines : List Text}
    {p : Place} :
    p ∈ placesFrom before (line :: lines) ↔
      (p.before = before ∧ IsWrittenOn line p.heading) ∨
        p ∈ placesFrom (before ++ Text.line line) lines := by
  rw [placesFrom, List.mem_append, Option.mem_toList,
    Option.map_eq_some_iff]
  refine or_congr_left ?_
  simp only [ofLine?_eq_some_iff]
  constructor
  · rintro ⟨heading, hWritten, rfl⟩
    exact ⟨rfl, hWritten⟩
  · rintro ⟨rfl, hWritten⟩
    exact ⟨p.heading, hWritten, rfl⟩

theorem mem_placesFrom_iff
    {before t : Text}
    {p : Place} :
    p ∈ placesFrom before (t.splitOn '\n') ↔
      ∃ front, p.before = before ++ front ∧
        Place.IsIn t ⟨front, p.heading⟩ := by
  induction t using Text.line_induction generalizing before with
  | line l next hl ih =>
      rw [Text.splitOn_line hl, mem_placesFrom_cons_iff]
      simp only [Place.isIn_line_iff hl]
      constructor
      · rintro (⟨hBefore, hWritten⟩ | hMem)
        · exact ⟨[], by simpa using hBefore,
            Or.inl ⟨rfl, hWritten⟩⟩
        · cases next with
          | none => cases hMem
          | some u =>
              rcases (ih u rfl).mp hMem with
                ⟨front, hBefore, hIn⟩
              refine ⟨l ++ '\n' :: front, ?_,
                Or.inr ⟨u, rfl, front, rfl, hIn⟩⟩
              rw [hBefore, Text.line]
              simp
      · rintro ⟨_, hBefore, ⟨rfl, hWritten⟩ |
          ⟨u, hu, front, rfl, hIn⟩⟩
        · exact Or.inl ⟨by simpa using hBefore, hWritten⟩
        · cases hu
          refine Or.inr ((ih u rfl).mpr ⟨front, ?_, hIn⟩)
          rw [hBefore, Text.line]
          simp

/- The places found in a text are those that it has. -/
theorem mem_places_iff
    {t : Text}
    {p : Place} : p ∈ places t ↔ p.IsIn t := by
  rw [places, mem_placesFrom_iff]
  simp only [List.nil_append]
  constructor
  · rintro ⟨_, rfl, hIn⟩
    exact hIn
  · exact fun hIn => ⟨p.before, rfl, hIn⟩

instance (t : Text) (p : Place) : Decidable (p.IsIn t) :=
  decidable_of_iff (p ∈ places t) mem_places_iff

/- No place is before the text that all lines stand behind. -/
theorem length_le_of_mem_placesFrom
    {before : Text}
    {lines : List Text}
    {p : Place}
    (hMem : p ∈ placesFrom before lines) :
    before.length ≤ p.before.length := by
  induction lines generalizing before with
  | nil => cases hMem
  | cons line lines ih =>
      rcases mem_placesFrom_cons_iff.mp hMem with
        ⟨rfl, -⟩ | hMem
      · exact Nat.le_refl _
      · have hLength := ih hMem
        rw [List.length_append] at hLength
        omega

theorem pairwise_placesFrom
    (before : Text)
    (lines : List Text) :
    (placesFrom before lines).Pairwise Place.IsEarlier := by
  induction lines generalizing before with
  | nil => exact List.Pairwise.nil
  | cons line lines ih =>
      rw [placesFrom, List.pairwise_append]
      refine ⟨?_, ih _, ?_⟩
      · cases ofLine? line with
        | none => exact List.Pairwise.nil
        | some heading => exact List.pairwise_singleton _ _
      · intro p hp q hq
        have hBefore : p.before = before := by
          rw [Option.mem_toList, Option.map_eq_some_iff] at hp
          rcases hp with ⟨heading, -, rfl⟩
          rfl
        have hLength := length_le_of_mem_placesFrom hq
        rw [List.length_append, Text.line, List.length_append,
          List.length_singleton] at hLength
        rw [Place.IsEarlier, hBefore]
        omega

theorem map_heading_placesFrom
    (before : Text)
    (lines : List Text) :
    (placesFrom before lines).map Place.heading =
      lines.filterMap ofLine? := by
  induction lines generalizing before with
  | nil => rfl
  | cons line lines ih =>
      rw [placesFrom, List.map_append, ih, List.filterMap_cons]
      cases ofLine? line <;> rfl

/- The headings of a text are those at its places. -/
theorem map_heading_places (t : Text) :
    (places t).map Place.heading = all t :=
  map_heading_placesFrom [] _

theorem exists_isIn_of_mem_all
    {t heading : Text}
    (hMem : heading ∈ all t) :
    ∃ p : Place, p.IsIn t ∧ p.heading = heading := by
  rw [← map_heading_places] at hMem
  rcases List.mem_map.mp hMem with ⟨p, hp, rfl⟩
  exact ⟨p, mem_places_iff.mp hp, rfl⟩

end Heading

------------------------------------------------------------
-- Where Anchors Come From
------------------------------------------------------------

namespace Anchor

open Heading (Place places)

/-
  Whether anchors come from places of a text, one from each,
  in the order of the text.
-/
structure ComeFrom
    (t : Text)
    (anchors : List Anchor)
    (ps : List Place) : Prop where
  isIn : ∀ p ∈ ps, p.IsIn t
  inOrder : ps.Pairwise Place.IsEarlier
  eq_map : anchors = ps.map Place.anchor

/- The anchors of a text come from all of its places. -/
theorem comeFrom_places (t : Text) :
    ComeFrom t (all t) (places t) where
  isIn _ hp := Heading.mem_places_iff.mp hp
  inOrder := Heading.pairwise_placesFrom _ _
  eq_map := by
    rw [all, ← Heading.map_heading_places, List.map_map]
    rfl

/- They come from these places and from no others. -/
theorem comeFrom_all_iff
    {t : Text}
    {ps : List Place} :
    ComeFrom t (all t) ps ↔ ps = places t := by
  constructor
  · intro h
    have hPlaces := comeFrom_places t
    have hSubset : ps ⊆ places t :=
      fun p hp => Heading.mem_places_iff.mpr (h.isIn p hp)
    have hSublist : ps.Sublist (places t) :=
      List.sublist_of_subperm_of_pairwise
        (List.subperm_of_subset h.inOrder.nodup hSubset)
        h.inOrder hPlaces.inOrder
    apply hSublist.eq_of_length
    -- As many places as anchors leave none of them out.
    have hLength :=
      congrArg List.length (h.eq_map.symm.trans hPlaces.eq_map)
    simpa using hLength
  · rintro rfl
    exact comeFrom_places t

end Anchor

end SourceDocs
