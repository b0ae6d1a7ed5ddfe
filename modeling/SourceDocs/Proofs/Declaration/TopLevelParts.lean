import SourceDocs.Proofs.Declaration.Blocks
import SourceDocs.Proofs.Declaration.ListParts

/-
  Lists are split without loss.

  The brackets of a text say in which one way it is split:
  no comma parts a part, and every part but the last closes
  the brackets that it opens. A part may close more, as a
  bracket that closes none does not count. With commas
  between them the parts are the text again.

  A split may also go by the octets of a text: it notes
  where a part starts and slices it off at the comma. All
  these places are ends of characters, so every slice is
  there, and the slices are the parts.

  Key definitions include:
    * `SourceDocs.Text.ArePartsOf`
    * `SourceDocs.Text.slice?`
    * `SourceDocs.Text.slicesTopLevel`

  Main results:
    * `SourceDocs.Text.splitTopLevel_eq_iff`
    * `SourceDocs.Text.slicesTopLevel_eq`
    * `SourceDocs.Text.splitTopLevel_lossless`
-/

------------------------------------------------------------
-- Parts
------------------------------------------------------------

namespace SourceDocs

namespace Text

/- The parts between the commas that part a text. -/
inductive ArePartsOf : Text → List Text → Prop
| last {p : Text}
    (hEnclosed : IsEnclosed 0 p) : ArePartsOf p [p]
| next {p t : Text} {ps : List Text}
    (hEnclosed : IsEnclosed 0 p)
    (hClosed : depthAfter 0 p = 0)
    (hRest : ArePartsOf t ps) :
    ArePartsOf (p ++ ',' :: t) (p :: ps)

namespace ArePartsOf

variable {t : Text}
variable {ps : List Text}

theorem ne_nil (h : ArePartsOf t ps) : ps ≠ [] := by
  cases h with
  | last => exact List.cons_ne_nil _ _
  | next => exact List.cons_ne_nil _ _

/- The parts are the text again. -/
theorem join_eq (h : ArePartsOf t ps) : join [','] ps = t := by
  induction h with
  | last => rw [join, List.intercalate_singleton]
  | @next p t ps hEnclosed hClosed hRest ih =>
      rcases List.exists_cons_of_ne_nil hRest.ne_nil with
        ⟨q, qs, rfl⟩
      rw [join_cons_cons, ih, List.append_assoc,
        List.singleton_append]

/- No comma parts a part. -/
theorem isEnclosed
    (h : ArePartsOf t ps)
    {p : Text}
    (hp : p ∈ ps) : IsEnclosed 0 p := by
  induction h with
  | last hEnclosed =>
      rwa [List.mem_singleton.mp hp]
  | next hEnclosed hClosed hRest ih =>
      rcases List.mem_cons.mp hp with rfl | hp
      · exact hEnclosed
      · exact ih hp

/- A text is split into its parts. -/
theorem splitTopLevel_eq
    (h : ArePartsOf t ps) : splitTopLevel t = ps := by
  induction h with
  | last hEnclosed =>
      exact splitTopLevel_of_isEnclosed hEnclosed
  | @next p t ps hEnclosed hClosed hRest ih =>
      rw [splitTopLevel, splitFrom_append_comma hClosed,
        ← splitTopLevel, splitTopLevel_of_isEnclosed hEnclosed,
        ih, List.singleton_append]

end ArePartsOf

/- Closed parts make a list, and the last may stay open. -/
theorem arePartsOf_join
    {ps : List Text}
    (hNil : ps ≠ [])
    (hEnclosed : ∀ p ∈ ps, IsEnclosed 0 p)
    (hClosed : ∀ p ∈ ps.dropLast, depthAfter 0 p = 0) :
    ArePartsOf (join [','] ps) ps := by
  induction ps with
  | nil => exact absurd rfl hNil
  | cons p ps ih =>
      rw [List.forall_mem_cons] at hEnclosed
      cases ps with
      | nil =>
          rw [join, List.intercalate_singleton]
          exact .last hEnclosed.1
      | cons q ps =>
          rw [List.dropLast_cons_cons, List.forall_mem_cons]
            at hClosed
          rw [join_cons_cons, List.append_assoc,
            List.singleton_append]
          exact .next hEnclosed.1 hClosed.1
            (ih (List.cons_ne_nil q ps) hEnclosed.2 hClosed.2)

/- A text stays enclosed up to a comma that parts it. -/
theorem IsEnclosed.concat
    {depth : Nat}
    {c : Char}
    {t : Text}
    (h : IsEnclosed depth t)
    (hc : c = ',' → depthAfter depth t ≠ 0) :
    IsEnclosed depth (t ++ [c]) :=
  behindCommas_append_iff.mpr
    ⟨h, behindCommas_cons_iff.mpr ⟨hc, behindCommas_nil _ _⟩⟩

/-
  What has been read of a part is enclosed, and the depth is
  the one behind it. The depth is carried on from part to
  part, but it is zero wherever a part starts.
-/
theorem arePartsOf_splitFrom
    (part : Text)
    (hEnclosed : IsEnclosed 0 part.reverse)
    (t : Text) :
    ArePartsOf (part.reverse ++ t)
      (splitFrom (depthAfter 0 part.reverse) part t) := by
  induction t generalizing part with
  | nil =>
      rw [splitFrom, List.append_nil]
      exact .last hEnclosed
  | cons c t ih =>
      rcases comma_cases (depthAfter 0 part.reverse) c with
        ⟨rfl, hDepth⟩ | hc
      · rw [hDepth, splitFrom_comma]
        exact .next hEnclosed hDepth
          (ih [] (behindCommas_nil _ 0))
      · have hNext := hEnclosed.concat hc
        rw [← List.reverse_cons] at hNext
        have hParts := ih (c :: part) hNext
        rw [List.reverse_cons, depthAfter_append,
          List.append_assoc] at hParts
        rw [splitFrom_cons hc]
        exact hParts

/- A text has these parts and no others. -/
theorem splitTopLevel_eq_iff
    {t : Text}
    {ps : List Text} :
    splitTopLevel t = ps ↔ ArePartsOf t ps := by
  refine ⟨?_, ArePartsOf.splitTopLevel_eq⟩
  rintro rfl
  exact arePartsOf_splitFrom [] (behindCommas_nil _ 0) t

------------------------------------------------------------
-- Slices
------------------------------------------------------------

/-
  What stands from the octet `start` up to the octet `stop`,
  if there are characters that end before either.
-/
def slice?
    (t : Text)
    (start stop : Nat) : Option Text :=
  if start ≤ stop then
    (dropOctets? start t).bind fun u =>
      (dropOctets? (stop - start) u).map fun rest =>
        u.take (u.length - rest.length)
  else none

/-
  The slices of `t` that are its parts, where `offset` octets
  are read, the part in hand starts at the octet `start`,
  and `depth` brackets are open.
-/
def slicesFrom
    (t : Text)
    (depth start offset : Nat) : Text → List (Option Text)
| [] => [slice? t start t.byteLength]
| c :: cs =>
  if c = ',' ∧ depth = 0 then
    slice? t start offset ::
      slicesFrom t 0 (offset + 1) (offset + c.utf8Size) cs
  else
    slicesFrom t (stepDepth depth c) start
      (offset + c.utf8Size) cs

/- The slices of a text between the commas that part it. -/
def slicesTopLevel (t : Text) : List (Option Text) :=
  slicesFrom t 0 0 0 t

/- The middle of a text is sliced out between its ends. -/
theorem slice?_append
    (a b c : Text) :
    slice? (a ++ (b ++ c)) a.byteLength (a ++ b).byteLength =
      some b := by
  have hLength : a.byteLength + b.byteLength - a.byteLength =
      b.byteLength := Nat.add_sub_cancel_left _ _
  rw [slice?, byteLength_append, if_pos (Nat.le_add_right _ _),
    hLength, dropOctets?_append, Option.bind_some,
    dropOctets?_append, Option.map_some, List.length_append,
    Nat.add_sub_cancel, List.take_left]

/-
  The part in hand starts behind `front`, and what has been
  read of it is `part`, last character first.
-/
theorem slicesFrom_eq
    (depth : Nat)
    (front part t : Text) :
    slicesFrom (front ++ (part.reverse ++ t)) depth
        front.byteLength (front ++ part.reverse).byteLength t =
      (splitFrom depth part t).map some := by
  induction t generalizing depth front part with
  | nil =>
      have hSlice := slice?_append front part.reverse []
      rw [List.append_nil] at hSlice
      rw [slicesFrom, splitFrom, List.append_nil, hSlice,
        List.map_singleton]
  | cons c t ih =>
      rcases comma_cases depth c with ⟨rfl, rfl⟩ | hc
      -- the next part starts behind the comma, which is one octet
      · have hText :
            front ++ (part.reverse ++ ',' :: t) =
              front ++ part.reverse ++ [','] ++ t := by
          simp
        have hStart :
            (front ++ part.reverse).byteLength + 1 =
              (front ++ part.reverse ++ [',']).byteLength :=
          (byteLength_append _ [',']).symm
        have hRest := ih 0 (front ++ part.reverse ++ [',']) []
        rw [List.reverse_nil, List.nil_append, List.append_nil,
          ← hText, ← hStart] at hRest
        rw [slicesFrom, if_pos ⟨rfl, rfl⟩, slice?_append,
          splitFrom_comma, List.map_cons, splitTopLevel]
        exact congrArg _ hRest
      · have hRest := ih (stepDepth depth c) front (c :: part)
        have hOffset :
            (front ++ (c :: part).reverse).byteLength =
              (front ++ part.reverse).byteLength + c.utf8Size := by
          rw [List.reverse_cons, ← List.append_assoc]
          exact byteLength_append _ [c]
        rw [hOffset, List.reverse_cons, List.append_assoc,
          List.singleton_append] at hRest
        rw [slicesFrom, if_neg fun h => hc h.1 h.2, hRest,
          splitFrom_cons hc]

theorem slicesTopLevel_eq (t : Text) :
    slicesTopLevel t = (splitTopLevel t).map some :=
  slicesFrom_eq 0 [] [] t

------------------------------------------------------------
-- Without Loss
------------------------------------------------------------

/-
  The parts of a text joined by commas are the text, and
  each of them is a single part on its own, whatever
  brackets it closes. A text has no other parts, and they
  are what stands between the octets of its commas.
-/
theorem splitTopLevel_lossless (t : Text) :
    join [','] (splitTopLevel t) = t ∧
    (∀ p ∈ splitTopLevel t, splitTopLevel p = [p]) ∧
    (∀ ps, splitTopLevel t = ps ↔ ArePartsOf t ps) ∧
    slicesTopLevel t = (splitTopLevel t).map some := by
  have hParts : ArePartsOf t (splitTopLevel t) :=
    splitTopLevel_eq_iff.mp rfl
  refine ⟨hParts.join_eq, fun p hp => ?_,
    fun ps => splitTopLevel_eq_iff, slicesTopLevel_eq t⟩
  exact splitTopLevel_of_isEnclosed (hParts.isEnclosed hp)

/- What closes no bracket hides no comma from the next part. -/
example :
    slicesTopLevel "é>), Map<K, V>]".toList =
      [some "é>)".toList, some " Map<K, V>]".toList] := by
  decide +kernel

end Text

end SourceDocs
