import SourceDocs.Proofs.Text.Stretches

/-
  Digits and the number that they write.

  Digits that are read as a number are its numeral again, but
  for zeros in front of it. Nothing else is lost of them, as
  each number has one numeral.

  Main results:
    * `SourceDocs.Text.toDigits_ofDigitChars`
    * `SourceDocs.Text.exists_zeros_append_ofNat`
    * `SourceDocs.Text.ofDigitChars_eq_iff`
-/

------------------------------------------------------------
-- Digits
------------------------------------------------------------

namespace SourceDocs

theorem isAsciiDigit_iff
    {c : Char} :
    isAsciiDigit c = true ↔ 48 ≤ c.toNat ∧ c.toNat ≤ 57 := by
  simp only [isAsciiDigit, Bool.and_eq_true, decide_eq_true_eq,
    Char.le_def, UInt32.le_iff_toNat_le]
  rfl

/- A digit is the one that writes its value. -/
theorem digitChar_toNat_sub
    {c : Char}
    (hc : isAsciiDigit c = true) :
    Nat.digitChar (c.toNat - 48) = c := by
  rcases isAsciiDigit_iff.mp hc with ⟨hLow, hHigh⟩
  apply Char.toNat_inj.mp
  rw [Nat.toNat_digitChar_of_lt_ten (by omega)]
  omega

namespace Text

/- All that a numeral is made of are digits. -/
theorem isAsciiDigit_of_mem_ofNat
    {n : Nat}
    {c : Char}
    (hc : c ∈ ofNat n) : isAsciiDigit c = true := by
  have hDigit : c.isDigit = true :=
    Nat.isDigit_of_mem_toDigits (by decide) (by decide) hc
  simp only [Char.isDigit, Bool.and_eq_true,
    decide_eq_true_eq, ge_iff_le, UInt32.le_iff_toNat_le]
    at hDigit
  exact isAsciiDigit_iff.mpr hDigit

------------------------------------------------------------
-- Numerals
------------------------------------------------------------

/- Digits behind a number that is not zero extend its numeral. -/
theorem toDigits_ofDigitChars
    {digits : Text}
    {n : Nat}
    (hDigits : ∀ c ∈ digits, isAsciiDigit c = true)
    (hn : 0 < n) :
    ofNat (Nat.ofDigitChars 10 digits n) = ofNat n ++ digits := by
  induction digits generalizing n with
  | nil => rw [Nat.ofDigitChars_nil, List.append_nil]
  | cons c digits ih =>
      have hc := hDigits c List.mem_cons_self
      have hValue : c.toNat - 48 < 10 := by
        have hRange := isAsciiDigit_iff.mp hc
        omega
      have hOne : Nat.toDigits 10 (c.toNat - 48) = [c] := by
        rw [Nat.toDigits_of_lt_base hValue, digitChar_toNat_sub hc]
      have hNext :
          ofNat (10 * n + (c.toNat - 48)) = ofNat n ++ [c] := by
        rw [← hOne]
        exact (Nat.toDigits_append_toDigits (by decide) hn
          hValue).symm
      have hRest : ∀ d ∈ digits, isAsciiDigit d = true :=
        fun d hd => hDigits d (List.mem_cons_of_mem c hd)
      rw [Nat.ofDigitChars_cons]
      change ofNat (Nat.ofDigitChars 10 digits
        (10 * n + (c.toNat - 48))) = _
      rw [ih hRest (by omega), hNext, List.append_assoc,
        List.singleton_append]

/- Digits are the numeral of their number, behind zeros. -/
theorem exists_zeros_append_ofNat
    {digits : Text}
    (hNil : digits ≠ [])
    (hDigits : ∀ c ∈ digits, isAsciiDigit c = true) :
    ∃ zeros, digits =
      List.replicate zeros '0' ++
        ofNat (Nat.ofDigitChars 10 digits 0) := by
  induction digits with
  | nil => exact absurd rfl hNil
  | cons c digits ih =>
      have hc := hDigits c List.mem_cons_self
      have hRest : ∀ d ∈ digits, isAsciiDigit d = true :=
        fun d hd => hDigits d (List.mem_cons_of_mem c hd)
      have hFirst :
          Nat.ofDigitChars 10 (c :: digits) 0 =
            Nat.ofDigitChars 10 digits (c.toNat - 48) := by
        rw [Nat.ofDigitChars_cons, Nat.mul_zero, Nat.zero_add]
        rfl
      rw [hFirst]
      by_cases hZero : c = '0'
      · subst hZero
        by_cases hEnd : digits = []
        · subst hEnd
          exact ⟨0, rfl⟩
        · rcases ih hEnd hRest with ⟨zeros, hEq⟩
          refine ⟨zeros + 1, ?_⟩
          rw [List.replicate_succ, List.cons_append]
          exact congrArg ('0' :: ·) hEq
      · have hRange := isAsciiDigit_iff.mp hc
        have hValue : 0 < c.toNat - 48 := by
          have hNe : c.toNat ≠ 48 := fun hEq =>
            hZero (Char.toNat_inj.mp hEq)
          omega
        refine ⟨0, ?_⟩
        rw [toDigits_ofDigitChars hRest hValue, ofNat,
          Nat.toDigits_of_lt_base (by omega),
          digitChar_toNat_sub hc]
        rfl

/- Zeros in front of a numeral do not change its number. -/
theorem ofDigitChars_zeros_append
    (zeros n : Nat) :
    Nat.ofDigitChars 10 (List.replicate zeros '0' ++ ofNat n) 0 =
      n := by
  rw [Nat.ofDigitChars_append, Nat.ofDigitChars_replicate_zero,
    Nat.mul_zero]
  exact Nat.ofDigitChars_ten_toDigits

/- So zeros and its numeral are all that a number is read of. -/
theorem ofDigitChars_eq_iff
    {digits : Text}
    {n : Nat} :
    (digits ≠ [] ∧ digits.all isAsciiDigit = true ∧
        Nat.ofDigitChars 10 digits 0 = n) ↔
      ∃ zeros, digits = List.replicate zeros '0' ++ ofNat n := by
  constructor
  · rintro ⟨hNil, hAll, rfl⟩
    exact exists_zeros_append_ofNat hNil (List.all_eq_true.mp hAll)
  · rintro ⟨zeros, rfl⟩
    refine ⟨?_, List.all_eq_true.mpr fun c hc => ?_,
      ofDigitChars_zeros_append zeros n⟩
    · have hNumeral : ofNat n ≠ [] := Nat.toDigits_ne_nil
      exact List.append_ne_nil_of_right_ne_nil _ hNumeral
    · rcases List.mem_append.mp hc with hZero | hDigit
      · rw [List.eq_of_mem_replicate hZero]
        decide
      · exact isAsciiDigit_of_mem_ofNat hDigit

end Text

end SourceDocs
