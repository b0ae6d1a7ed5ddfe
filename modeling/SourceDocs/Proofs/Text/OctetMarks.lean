import Mathlib.Data.List.Basic
import SourceDocs.Proofs.Text.Cuts
import SourceDocs.Proofs.Text.Stretches
import SourceDocs.Text.Octets

/-
  Marks among the octets of a text.

  A character of ASCII is one octet, and no other character
  has such an octet. So a mark of ASCII stands among the
  octets where it stands in the text, and it is counted
  there as it is in the text.

  Main results:
    * `SourceDocs.Text.length_toOctets`
    * `SourceDocs.Text.count_toOctets`
    * `SourceDocs.Text.exists_of_getElem?_toOctets`
    * `SourceDocs.Text.exists_prefix_of_prefix_toOctets`
-/

------------------------------------------------------------
-- Codes Of Characters
------------------------------------------------------------

namespace SourceDocs

variable {mark c : Char}

/- The code of a character of ASCII is its number. -/
theorem utf8EncodeChar_of_isAscii
    (hc : isAscii c = true) :
    String.utf8EncodeChar c = [c.toUInt8] := by
  have hNumber : c.toNat < 128 := of_decide_eq_true hc
  apply String.utf8EncodeChar_eq_singleton
  rw [Char.utf8Size_eq_one_iff, UInt32.le_iff_toNat_le]
  exact Nat.le_of_lt_succ hNumber

/- All octets of any other character lie behind ASCII. -/
theorem le_of_mem_utf8EncodeChar
    (hc : isAscii c = false) :
    ∀ b ∈ String.utf8EncodeChar c, 128 ≤ b.toNat := by
  have hNumber : ¬ c.val.toNat ≤ 127 := by
    have hLarge : ¬ c.toNat < 128 := of_decide_eq_false hc
    unfold Char.toNat at hLarge
    omega
  unfold String.utf8EncodeChar
  dsimp only
  rw [if_neg hNumber]
  split_ifs
  all_goals
    simp only [List.forall_mem_cons, List.not_mem_nil,
      false_implies, implies_true, and_true,
      UInt8.toNat_ofNat']
    omega

theorem toNat_toUInt8
    (hc : isAscii c = true) : c.toUInt8.toNat = c.toNat := by
  have hNumber : c.toNat < 128 := of_decide_eq_true hc
  unfold Char.toUInt8
  rw [UInt32.toNat_toUInt8]
  exact Nat.mod_eq_of_lt (Nat.lt_trans hNumber (by decide))

/- So no octet of another character is one of a mark. -/
theorem count_utf8EncodeChar
    (hMark : isAscii mark = true)
    (c : Char) :
    (String.utf8EncodeChar c).count mark.toUInt8 =
      [c].count mark := by
  have hNumber := toNat_toUInt8 hMark
  cases hc : isAscii c with
  | true =>
      rw [utf8EncodeChar_of_isAscii hc, List.count_singleton,
        List.count_singleton]
      have hSame : c.toUInt8 = mark.toUInt8 ↔ c = mark := by
        refine ⟨fun hEq => Char.toNat_inj.mp ?_, congrArg _⟩
        rw [← toNat_toUInt8 hc, hEq, hNumber]
      simp [hSame]
  | false =>
      have hNone : mark.toUInt8 ∉ String.utf8EncodeChar c := by
        intro hMem
        have hLarge := le_of_mem_utf8EncodeChar hc _ hMem
        have hSmall : mark.toNat < 128 := of_decide_eq_true hMark
        omega
      have hNe : mark ∉ [c] := by
        rintro hMem
        rw [List.mem_singleton.mp hMem, hc] at hMark
        cases hMark
      rw [List.count_eq_zero.mpr hNone, List.count_eq_zero.mpr hNe]

------------------------------------------------------------
-- Octets Of Texts
------------------------------------------------------------

namespace Text

@[simp] theorem toOctets_nil : toOctets [] = [] := rfl

@[simp] theorem toOctets_cons
    (c : Char)
    (t : Text) :
    toOctets (c :: t) = String.utf8EncodeChar c ++ toOctets t :=
  rfl

@[simp] theorem toOctets_append
    (t u : Text) :
    toOctets (t ++ u) = toOctets t ++ toOctets u :=
  List.flatMap_append

theorem length_toOctets (t : Text) :
    t.toOctets.length = t.byteLength := by
  induction t with
  | nil => rfl
  | cons c t ih =>
      rw [toOctets_cons, List.length_append,
        String.length_utf8EncodeChar, ih]
      rfl

/- A mark is counted among the octets as in the text. -/
theorem count_toOctets
    (hMark : isAscii mark = true)
    (t : Text) :
    t.toOctets.count mark.toUInt8 = t.count mark := by
  induction t with
  | nil => rfl
  | cons c t ih =>
      rw [toOctets_cons, List.count_append,
        count_utf8EncodeChar hMark, ih, ← List.count_append,
        List.singleton_append]

/- An octet that is a mark is a character of the text. -/
theorem exists_of_getElem?_toOctets
    (hMark : isAscii mark = true)
    {t : Text}
    {n : Nat}
    (h : t.toOctets[n]? = some mark.toUInt8) :
    ∃ front rest,
      t = front ++ mark :: rest ∧ front.byteLength = n := by
  induction t generalizing n with
  | nil => simp at h
  | cons c t ih =>
      rw [toOctets_cons, List.getElem?_append] at h
      split_ifs at h with hn
      · have hCount := count_utf8EncodeChar hMark c
        have hPos :=
          List.count_pos_iff.mpr (List.mem_of_getElem? h)
        rw [hCount, List.count_pos_iff, List.mem_singleton]
          at hPos
        rw [← hPos, utf8EncodeChar_of_isAscii hMark,
          List.length_singleton, Nat.lt_one_iff] at hn
        exact ⟨[], t, by rw [hPos]; rfl, hn.symm⟩
      · rcases ih h with ⟨front, rest, rfl, hLength⟩
        refine ⟨c :: front, rest, rfl, ?_⟩
        rw [← length_toOctets, toOctets_cons, List.length_append,
          length_toOctets, hLength]
        omega

/-
  Octets at the front of a text hold the marks of a front of
  the text, also where they end within a character.
-/
theorem exists_prefix_of_prefix_toOctets
    {t : Text}
    {p : Octets}
    (h : p <+: t.toOctets) :
    ∃ q, q <+: t ∧
      ∀ mark, isAscii mark = true →
        p.count mark.toUInt8 = q.count mark := by
  induction t generalizing p with
  | nil =>
      rw [List.prefix_nil.mp h]
      exact ⟨[], List.prefix_rfl, fun _ _ => rfl⟩
  | cons c t ih =>
      rw [toOctets_cons] at h
      rcases prefix_append_cases h with hp | ⟨p', rfl, hp⟩
      · cases hc : isAscii c with
        | true =>
            rw [utf8EncodeChar_of_isAscii hc] at hp
            rcases List.prefix_cons_iff.mp hp with
              rfl | ⟨p', rfl, hNil⟩
            · exact ⟨[], List.nil_prefix, fun _ _ => rfl⟩
            · refine ⟨[c], ⟨t, rfl⟩, fun mark hMark => ?_⟩
              rw [List.prefix_nil.mp hNil,
                ← utf8EncodeChar_of_isAscii hc,
                count_utf8EncodeChar hMark]
        | false =>
            -- Part of such a character holds no mark at all.
            refine ⟨[], List.nil_prefix, fun mark hMark => ?_⟩
            rw [List.count_nil, List.count_eq_zero]
            intro hMem
            have hLarge :=
              le_of_mem_utf8EncodeChar hc _ (hp.subset hMem)
            have hSmall : mark.toNat < 128 :=
              of_decide_eq_true hMark
            rw [toNat_toUInt8 hMark] at hLarge
            omega
      · rcases ih hp with ⟨q, hq, hCount⟩
        refine ⟨c :: q, (List.prefix_cons_inj c).mpr hq,
          fun mark hMark => ?_⟩
        rw [List.count_append, count_utf8EncodeChar hMark,
          hCount mark hMark, ← List.count_append,
          List.singleton_append]

end Text

end SourceDocs
