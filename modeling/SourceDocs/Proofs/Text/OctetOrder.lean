import Mathlib.Data.List.Basic
import SourceDocs.Text.Octets

/-
  The order of texts is the order of their octets.

  Texts are compared character by character. As UTF-8 keeps
  the order of characters and no code is the beginning of
  another, comparing octet by octet gives the same order.

  Main results:
    * `SourceDocs.Octets.utf8EncodeChar_append_lt`
    * `SourceDocs.Text.toOctets_lt_toOctets`
-/

------------------------------------------------------------
-- Codes Of Characters
------------------------------------------------------------

namespace SourceDocs

namespace Octets

/- Octets are compared by the first that differ. -/
theorem ofNat_cons_lt_ofNat_cons
    {m n : Nat}
    {s t : Octets}
    (hn : n < 256)
    (hFirst : m ≤ n)
    (hRest : m = n → s < t) :
    UInt8.ofNat m :: s < UInt8.ofNat n :: t := by
  rw [List.cons_lt_cons_iff]
  rcases Nat.lt_or_eq_of_le hFirst with hLess | hSame
  · left
    rw [UInt8.lt_iff_toNat_lt, UInt8.toNat_ofNat',
      UInt8.toNat_ofNat', Nat.mod_eq_of_lt hn,
      Nat.mod_eq_of_lt (Nat.lt_trans hLess hn)]
    exact hLess
  · right
    exact ⟨congrArg UInt8.ofNat hSame, hRest hSame⟩

/- The code of a smaller character comes first. -/
theorem utf8EncodeChar_append_lt
    {c d : Char}
    (h : c < d)
    (s t : Octets) :
    String.utf8EncodeChar c ++ s <
      String.utf8EncodeChar d ++ t := by
  have hOrder : c.val.toNat < d.val.toNat := h
  have hLast : d.val.toNat < 1114112 := by
    have hValid := d.valid
    simp only [UInt32.isValidChar, Nat.isValidChar] at hValid
    omega
  unfold String.utf8EncodeChar
  dsimp only
  generalize c.val.toNat = m at hOrder ⊢
  generalize d.val.toNat = n at hOrder hLast ⊢
  -- Codes of two lengths differ in the first octet, codes of
  -- one length in the first digit to base 64 that differs.
  split_ifs
  all_goals
    simp only [List.cons_append, List.nil_append]
    repeat
      refine ofNat_cons_lt_ofNat_cons (by omega) (by omega)
        fun hSame => ?_
    omega

end Octets

------------------------------------------------------------
-- Octets Of Texts
------------------------------------------------------------

namespace Text

/- A text that comes first has octets that come first. -/
theorem toOctets_lt_toOctets
    {t u : Text}
    (h : t < u) : t.toOctets < u.toOctets := by
  induction t generalizing u with
  | nil =>
      cases u with
      | nil => exact absurd h (List.lt_irrefl [])
      | cons d u =>
          unfold toOctets
          rw [List.flatMap_nil, List.flatMap_cons]
          have hNil : String.utf8EncodeChar d ≠ [] := by
            unfold String.utf8EncodeChar
            dsimp only
            split_ifs <;> simp
          rcases List.exists_cons_of_ne_nil hNil with
            ⟨b, bs, hCode⟩
          rw [hCode, List.cons_append]
          exact List.nil_lt_cons b _
  | cons c t ih =>
      cases u with
      | nil => exact absurd h (List.not_lt_nil _)
      | cons d u =>
          unfold toOctets
          rw [List.flatMap_cons, List.flatMap_cons]
          rcases List.cons_lt_cons_iff.mp h with
            hFirst | ⟨rfl, hRest⟩
          · exact Octets.utf8EncodeChar_append_lt hFirst _ _
          · exact List.append_left_lt (ih hRest)

end Text

end SourceDocs
