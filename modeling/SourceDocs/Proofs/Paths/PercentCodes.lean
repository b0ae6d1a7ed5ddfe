import SourceDocs.DocPath

/-
  Percent codes of spaces, and the lengths of decoded texts.

  Decoding leaves alone what holds no codes and takes the
  code of a space for a space, whatever follows. It makes no
  text longer.

  Main results:
    * `SourceDocs.PercentCode.decode_encodeSpaces`
    * `SourceDocs.PercentCode.decode_append_encodeSpaces`
    * `SourceDocs.PercentCode.length_decode_le`
-/

------------------------------------------------------------
-- Single Codes
------------------------------------------------------------

namespace SourceDocs

/- A space is a character whatever octets follow it. -/
theorem Octets.decodeLossy_space (octets : Octets) :
    decodeLossy (0x20 :: octets) = ' ' :: decodeLossy octets := by
  have hFront : front 0x20 octets = .char ' ' 1 := by
    rw [front.eq_def, if_pos (by decide)]
    rfl
  simp [decodeLossy, fronts, hFront, Front.size]

namespace PercentCode

/- The code of a space does not join with those behind it. -/
theorem decodeFrom_space
    (run : Octets)
    (ts : List Token) :
    decodeFrom (0x20 :: run) ts = ' ' :: decodeFrom run ts := by
  induction ts generalizing run with
  | nil => exact Octets.decodeLossy_space run
  | cons token ts ih =>
      cases token with
      | plain c =>
          rw [decodeFrom, decodeFrom, Octets.decodeLossy_space,
            List.cons_append]
      | octet b =>
          rw [decodeFrom, decodeFrom, List.cons_append, ih]

theorem decode_cons
    {c : Char}
    (hc : c ≠ '%')
    (t : Text) : decode (c :: t) = c :: decode t := by
  have hTokens : tokens 0 (c :: t) = .plain c :: tokens 0 t := by
    rw [tokens]
    exact fun _ _ _ h => absurd h hc
  rw [decode, hTokens, decodeFrom]
  rfl

/- The code of a space stands for a space. -/
theorem decode_space (t : Text) :
    decode ('%' :: '2' :: '0' :: t) = ' ' :: decode t := by
  have hTokens :
      tokens 0 ('%' :: '2' :: '0' :: t) =
        .octet 0x20 :: tokens 0 t := rfl
  rw [decode, hTokens, decodeFrom, List.nil_append,
    decodeFrom_space, decode]

------------------------------------------------------------
-- Texts
------------------------------------------------------------

/- Decoding goes on behind a text without codes. -/
theorem decode_append
    {a : Text}
    (ha : '%' ∉ a)
    (b : Text) : decode (a ++ b) = a ++ decode b := by
  induction a with
  | nil => rfl
  | cons c a ih =>
      rw [List.mem_cons, not_or] at ha
      rw [List.cons_append, decode_cons (Ne.symm ha.1), ih ha.2,
        List.cons_append]

theorem decode_eq_self
    {t : Text}
    (ht : '%' ∉ t) : decode t = t := by
  have hEnd : decode [] = [] := rfl
  have hWhole := decode_append ht []
  rwa [hEnd, List.append_nil] at hWhole

/- Spaces that are encoded are decoded again. -/
theorem decode_encodeSpaces
    {t : Text}
    (ht : '%' ∉ t) : decode (DocPath.encodeSpaces t) = t := by
  induction t with
  | nil => rfl
  | cons c t ih =>
      rw [List.mem_cons, not_or] at ht
      rw [DocPath.encodeSpaces, List.flatMap_cons,
        ← DocPath.encodeSpaces]
      by_cases hc : c = ' '
      · rw [if_pos hc, List.cons_append, List.cons_append,
          List.cons_append, List.nil_append, decode_space,
          ih ht.2, hc]
      · rw [if_neg hc, List.singleton_append,
          decode_cons (Ne.symm ht.1), ih ht.2]

/- So they are behind a text that was left as it is. -/
theorem decode_append_encodeSpaces
    {a b : Text}
    (hab : '%' ∉ a ++ b) :
    decode (a ++ DocPath.encodeSpaces b) = a ++ b := by
  rw [List.mem_append, not_or] at hab
  rw [decode_append hab.1, decode_encodeSpaces hab.2]

end PercentCode

------------------------------------------------------------
-- Lengths
------------------------------------------------------------

namespace Octets

theorem length_fronts_le
    (skip : Nat)
    (octets : Octets) :
    (fronts skip octets).length ≤ octets.length := by
  induction octets generalizing skip with
  | nil => exact Nat.le_refl 0
  | cons a rest ih =>
      cases skip with
      | zero => exact Nat.succ_le_succ (ih _)
      | succ skip => exact Nat.le_succ_of_le (ih skip)

theorem length_decodeLossy_le (octets : Octets) :
    (decodeLossy octets).length ≤ octets.length := by
  rw [decodeLossy, List.length_map]
  exact length_fronts_le 0 octets

end Octets

namespace PercentCode

/- Every token takes a character or more. -/
theorem length_tokens_le
    (skip : Nat)
    (t : Text) : (tokens skip t).length ≤ t.length := by
  induction t generalizing skip with
  | nil => exact Nat.le_refl 0
  | cons c cs ih =>
      cases skip with
      | succ skip => exact Nat.le_succ_of_le (ih skip)
      | zero =>
          rw [tokens.eq_def]
          dsimp only
          split
          · split <;> exact Nat.succ_le_succ (ih _)
          · exact Nat.succ_le_succ (ih 0)

/- Every character takes a token or more. -/
theorem length_decodeFrom_le
    (run : Octets)
    (ts : List Token) :
    (decodeFrom run ts).length ≤ run.length + ts.length := by
  induction ts generalizing run with
  | nil => exact Octets.length_decodeLossy_le run
  | cons token ts ih =>
      cases token with
      | octet b =>
          have hRest := ih (run ++ [b])
          rw [decodeFrom]
          rw [List.length_append] at hRest
          simp only [List.length_cons, List.length_nil] at hRest ⊢
          omega
      | plain c =>
          have hRun := Octets.length_decodeLossy_le run
          have hRest := ih []
          rw [decodeFrom, List.length_append]
          simp only [List.length_cons, List.length_nil] at hRest ⊢
          omega

theorem length_decode_le (t : Text) :
    (decode t).length ≤ t.length := by
  have hDecoded := length_decodeFrom_le [] (tokens 0 t)
  have hTokens := length_tokens_le 0 t
  rw [decode]
  rw [List.length_nil, Nat.zero_add] at hDecoded
  exact Nat.le_trans hDecoded hTokens

/- What decoding gives back in full was not cut off. -/
theorem eq_of_decode_takeWhile
    {p : Char → Bool}
    {t : Text}
    (h : decode (t.takeWhile p) = t) : t.takeWhile p = t := by
  have hPrefix : t.takeWhile p <+: t := List.takeWhile_prefix p
  have hDecoded := length_decode_le (t.takeWhile p)
  rw [h] at hDecoded
  exact hPrefix.eq_of_length_le hDecoded

end PercentCode

end SourceDocs
