import Mathlib.Data.List.Infix
import SourceDocs.Declaration.Brackets
import SourceDocs.Proofs.Text.Stretches

/-
  Blocks between braces.

  A block is closed by the first brace that closes more than
  was opened inside of it. So the braces inside of it close
  each other, and a text that is passed over in search of
  that brace is one whose braces do so. A block without such
  a brace stays open.

  Key definitions include:
    * `SourceDocs.Text.IsBalanced`
    * `SourceDocs.IsNested`
    * `SourceDocs.Text.StaysOpen`

  Main results:
    * `SourceDocs.Text.block?_of_isBalanced`
    * `SourceDocs.Text.exists_of_closeAt?`
    * `SourceDocs.Text.isBalanced_iff_isNested`
    * `SourceDocs.Text.exists_of_blockAt?`
    * `SourceDocs.Text.staysOpen_of_blockAt?`
-/

------------------------------------------------------------
-- Closing Braces
------------------------------------------------------------

namespace SourceDocs

namespace Text

theorem closeAt?_open (depth seen : Nat) (t : Text) :
    closeAt? depth seen ('\x7b' :: t) =
      closeAt? (depth + 1) (seen + 1) t := by
  rw [closeAt?.eq_def]
  rfl

theorem closeAt?_close (depth seen : Nat) (t : Text) :
    closeAt? (depth + 1) seen ('\x7d' :: t) =
      closeAt? depth (seen + 1) t := by
  rw [closeAt?.eq_def]
  rfl

theorem closeAt?_zero_close (seen : Nat) (t : Text) :
    closeAt? 0 seen ('\x7d' :: t) = some seen := by
  rw [closeAt?.eq_def]
  rfl

theorem closeAt?_of_ne
    {c : Char}
    (hOpen : c ≠ '\x7b')
    (hClose : c ≠ '\x7d')
    (depth seen : Nat)
    (t : Text) :
    closeAt? depth seen (c :: t) =
      closeAt? depth (seen + 1) t := by
  rw [closeAt?.eq_def]
  dsimp only
  rw [if_neg hOpen, if_neg hClose]

/- A text that closes all braces that it opens. -/
def IsBalanced (t : Text) : Prop :=
  ∀ depth seen u,
    closeAt? depth seen (t ++ u) =
      closeAt? depth (seen + t.length) u

theorem isBalanced_nil : IsBalanced [] :=
  fun _ _ _ => rfl

theorem IsBalanced.append
    {t u : Text}
    (ht : IsBalanced t)
    (hu : IsBalanced u) : IsBalanced (t ++ u) := by
  intro depth seen v
  rw [List.append_assoc, ht, hu, List.length_append,
    Nat.add_assoc]

theorem isBalanced_of_not_mem
    {t : Text}
    (hOpen : '\x7b' ∉ t)
    (hClose : '\x7d' ∉ t) : IsBalanced t := by
  induction t with
  | nil => exact isBalanced_nil
  | cons c t ih =>
      rw [List.mem_cons, not_or] at hOpen hClose
      intro depth seen u
      rw [List.cons_append,
        closeAt?_of_ne (Ne.symm hOpen.1) (Ne.symm hClose.1),
        ih hOpen.2 hClose.2, List.length_cons]
      congr 1
      omega

theorem IsBalanced.block
    {t : Text}
    (ht : IsBalanced t) : IsBalanced ('\x7b' :: (t ++ ['\x7d'])) := by
  intro depth seen u
  rw [List.cons_append, List.append_assoc,
    List.singleton_append, closeAt?_open, ht, closeAt?_close,
    List.length_cons, List.length_append, List.length_singleton]
  congr 1
  omega

/- The block around a balanced text is closed behind it. -/
theorem block?_of_isBalanced
    {t : Text}
    (ht : IsBalanced t)
    (u : Text) : block? (t ++ '\x7d' :: u) = some t := by
  rw [block?, ht, closeAt?_zero_close, Option.map_some,
    Nat.zero_add, List.take_left]

end Text

------------------------------------------------------------
-- What A Block Holds
------------------------------------------------------------

/-
  Whether in a list each closing mark closes an opening one,
  and all that are opened are closed.
-/
structure IsNested
    {α : Type}
    [DecidableEq α]
    (opening closing : α)
    (xs : List α) : Prop where
  count_le :
    ∀ p, p <+: xs → p.count closing ≤ p.count opening
  count_eq : xs.count closing = xs.count opening

instance
    {α : Type}
    [DecidableEq α]
    (opening closing : α)
    (xs : List α) : Decidable (IsNested opening closing xs) :=
  decidable_of_iff
    ((∀ p ∈ xs.inits, p.count closing ≤ p.count opening) ∧
      xs.count closing = xs.count opening)
    ⟨fun h => ⟨fun p hp => h.1 p ((List.mem_inits p xs).mpr hp), h.2⟩,
     fun h => ⟨fun p hp => h.1 p ((List.mem_inits p xs).mp hp), h.2⟩⟩

namespace Text

/- Whether with `depth` blocks open no front closes more. -/
def StaysOpen
    (depth : Nat)
    (t : Text) : Prop :=
  ∀ p, p <+: t → p.count '\x7d' ≤ depth + p.count '\x7b'

theorem staysOpen_nil (depth : Nat) : StaysOpen depth [] := by
  intro p hp
  rw [List.prefix_nil.mp hp]
  exact Nat.zero_le _

theorem staysOpen_cons_iff
    {depth : Nat}
    {c : Char}
    {t : Text} :
    StaysOpen depth (c :: t) ↔
      ∀ p, p <+: t →
        (c :: p).count '\x7d' ≤ depth + (c :: p).count '\x7b' := by
  constructor
  · intro h p hp
    exact h (c :: p) ((List.prefix_cons_inj c).mpr hp)
  · intro h p hp
    rcases List.prefix_cons_iff.mp hp with rfl | ⟨p, rfl, hRest⟩
    · exact Nat.zero_le _
    · exact h p hRest

theorem staysOpen_open_iff
    {depth : Nat}
    {t : Text} :
    StaysOpen depth ('\x7b' :: t) ↔ StaysOpen (depth + 1) t := by
  rw [staysOpen_cons_iff]
  refine forall₂_congr fun p _ => ?_
  rw [List.count_cons_self, List.count_cons_of_ne (by decide)]
  omega

theorem staysOpen_close_iff
    {depth : Nat}
    {t : Text} :
    StaysOpen (depth + 1) ('\x7d' :: t) ↔ StaysOpen depth t := by
  rw [staysOpen_cons_iff]
  refine forall₂_congr fun p _ => ?_
  rw [List.count_cons_self, List.count_cons_of_ne (by decide)]
  omega

theorem not_staysOpen_zero_close
    (t : Text) : ¬ StaysOpen 0 ('\x7d' :: t) := by
  intro h
  have hFirst := h ['\x7d'] ⟨t, rfl⟩
  simp at hFirst

theorem staysOpen_cons_of_ne_iff
    {depth : Nat}
    {c : Char}
    {t : Text}
    (hOpen : c ≠ '\x7b')
    (hClose : c ≠ '\x7d') :
    StaysOpen depth (c :: t) ↔ StaysOpen depth t := by
  rw [staysOpen_cons_iff]
  refine forall₂_congr fun p _ => ?_
  rw [List.count_cons_of_ne hOpen, List.count_cons_of_ne hClose]

theorem staysOpen_zero_iff
    {t : Text} :
    StaysOpen 0 t ↔
      ∀ p, p <+: t → p.count '\x7d' ≤ p.count '\x7b' := by
  unfold StaysOpen
  simp only [Nat.zero_add]

/- A block that is not closed stays open. -/
theorem staysOpen_of_closeAt?
    {depth seen : Nat}
    {t : Text}
    (h : closeAt? depth seen t = none) : StaysOpen depth t := by
  induction t generalizing depth seen with
  | nil => exact staysOpen_nil depth
  | cons c t ih =>
      by_cases hOpen : c = '\x7b'
      · subst hOpen
        rw [closeAt?_open] at h
        exact staysOpen_open_iff.mpr (ih h)
      by_cases hClose : c = '\x7d'
      · subst hClose
        cases depth with
        | zero =>
            rw [closeAt?_zero_close] at h
            cases h
        | succ depth =>
            rw [closeAt?_close] at h
            exact staysOpen_close_iff.mpr (ih h)
      · rw [closeAt?_of_ne hOpen hClose] at h
        exact (staysOpen_cons_of_ne_iff hOpen hClose).mpr (ih h)

/-
  A block that is closed stays open up to there, and all
  that was open is closed by then.
-/
theorem exists_of_closeAt?
    {depth seen n : Nat}
    {t : Text}
    (h : closeAt? depth seen t = some n) :
    ∃ inside rest,
      t = inside ++ '\x7d' :: rest ∧ n = seen + inside.length ∧
      inside.count '\x7d' = depth + inside.count '\x7b' ∧
      StaysOpen depth inside := by
  induction t generalizing depth seen with
  | nil => cases h
  | cons c t ih =>
      by_cases hOpen : c = '\x7b'
      · subst hOpen
        rw [closeAt?_open] at h
        rcases ih h with ⟨inside, rest, rfl, rfl, hEq, hStays⟩
        refine
          ⟨'\x7b' :: inside, rest, rfl, ?_, ?_,
            staysOpen_open_iff.mpr hStays⟩
        · rw [List.length_cons]
          omega
        · rw [List.count_cons_self,
            List.count_cons_of_ne (by decide)]
          omega
      by_cases hClose : c = '\x7d'
      · subst hClose
        cases depth with
        | zero =>
            rw [closeAt?_zero_close] at h
            cases h
            exact ⟨[], t, rfl, rfl, rfl, staysOpen_nil 0⟩
        | succ depth =>
            rw [closeAt?_close] at h
            rcases ih h with
              ⟨inside, rest, rfl, rfl, hEq, hStays⟩
            refine
              ⟨'\x7d' :: inside, rest, rfl, ?_, ?_,
                staysOpen_close_iff.mpr hStays⟩
            · rw [List.length_cons]
              omega
            · rw [List.count_cons_self,
                List.count_cons_of_ne (by decide)]
              omega
      · rw [closeAt?_of_ne hOpen hClose] at h
        rcases ih h with ⟨inside, rest, rfl, rfl, hEq, hStays⟩
        refine
          ⟨c :: inside, rest, rfl, ?_, ?_,
            (staysOpen_cons_of_ne_iff hOpen hClose).mpr hStays⟩
        · rw [List.length_cons]
          omega
        · rw [List.count_cons_of_ne hOpen,
            List.count_cons_of_ne hClose, hEq]

/- What stays open is passed over, its braces counted. -/
theorem closeAt?_append_of_staysOpen
    {depth : Nat}
    {t : Text}
    (h : StaysOpen depth t)
    (seen : Nat)
    (u : Text) :
    closeAt? depth seen (t ++ u) =
      closeAt? (depth + t.count '\x7b' - t.count '\x7d')
        (seen + t.length) u := by
  induction t generalizing depth seen with
  | nil => rfl
  | cons c t ih =>
      have hLength : seen + 1 + t.length = seen + (c :: t).length := by
        rw [List.length_cons]
        omega
      rw [List.cons_append, ← hLength]
      by_cases hOpen : c = '\x7b'
      · subst hOpen
        rw [closeAt?_open, ih (staysOpen_open_iff.mp h),
          List.count_cons_self, List.count_cons_of_ne (by decide)]
        congr 1
        omega
      by_cases hClose : c = '\x7d'
      · subst hClose
        cases depth with
        | zero => exact absurd h (not_staysOpen_zero_close t)
        | succ depth =>
            rw [closeAt?_close, ih (staysOpen_close_iff.mp h),
              List.count_cons_self,
              List.count_cons_of_ne (by decide)]
            congr 1
            omega
      · rw [closeAt?_of_ne hOpen hClose,
          ih ((staysOpen_cons_of_ne_iff hOpen hClose).mp h),
          List.count_cons_of_ne hOpen,
          List.count_cons_of_ne hClose]

/- A text is balanced if its braces are nested, and only so. -/
theorem isBalanced_iff_isNested
    {t : Text} : IsBalanced t ↔ IsNested '\x7b' '\x7d' t := by
  constructor
  · intro h
    have hClose := h 0 0 ['\x7d']
    rw [closeAt?_zero_close, Nat.zero_add] at hClose
    rcases exists_of_closeAt? hClose with
      ⟨inside, rest, hText, hLength, hEq, hStays⟩
    rw [Nat.zero_add] at hLength hEq
    rw [(List.append_inj hText hLength).1]
    exact ⟨staysOpen_zero_iff.mp hStays, hEq⟩
  · intro h depth seen u
    have hStays : StaysOpen depth t := fun p hp =>
      Nat.le_trans (h.count_le p hp) (Nat.le_add_left _ depth)
    rw [closeAt?_append_of_staysOpen hStays, h.count_eq,
      Nat.add_sub_cancel]

------------------------------------------------------------
-- Where A Block Stands
------------------------------------------------------------

/- What follows a front is found behind its octets. -/
theorem dropOctets?_append
    (front u : Text) :
    dropOctets? front.byteLength (front ++ u) = some u := by
  induction front with
  | nil => exact dropOctets?.eq_1 u
  | cons c front ih =>
      have hSize := c.utf8Size_pos
      rcases Nat.exists_eq_succ_of_ne_zero
          (n := c.utf8Size + byteLength front) (by omega) with
        ⟨k, hk⟩
      have hRest : k + 1 - c.utf8Size = byteLength front := by
        omega
      rw [byteLength_cons, hk, List.cons_append, dropOctets?,
        if_pos (by omega), hRest, ih]

theorem exists_of_dropOctets?
    {n : Nat}
    {t u : Text}
    (h : dropOctets? n t = some u) :
    ∃ front, t = front ++ u ∧ front.byteLength = n := by
  induction t generalizing n with
  | nil =>
      cases n with
      | zero => exact ⟨[], Option.some.inj h, rfl⟩
      | succ n => cases h
  | cons c t ih =>
      cases n with
      | zero => exact ⟨[], Option.some.inj h, rfl⟩
      | succ n =>
          rw [dropOctets?] at h
          split_ifs at h with hSize
          rcases ih h with ⟨front, rfl, hFront⟩
          refine ⟨c :: front, rfl, ?_⟩
          rw [byteLength_cons, hFront]
          omega

/- A block with its braces, and what is known of its inside. -/
theorem exists_of_blockAt?
    {t : Text}
    {n : Nat}
    {b : Block}
    (h : blockAt? t n = some b) :
    ∃ front back,
      t = front ++ '\x7b' :: (b.text ++ '\x7d' :: back) ∧
      front.byteLength = n ∧ b.start = n + 1 ∧
      b.stop = n + 1 + b.text.byteLength ∧
      IsNested '\x7b' '\x7d' b.text := by
  unfold blockAt? at h
  split at h
  · next rest hDrop =>
      rcases exists_of_dropOctets? hDrop with ⟨front, rfl, hFront⟩
      rcases Option.map_eq_some_iff.mp h with
        ⟨inside, hBlock, rfl⟩
      rcases Option.map_eq_some_iff.mp hBlock with
        ⟨k, hClose, rfl⟩
      rcases exists_of_closeAt? hClose with
        ⟨inside, back, rfl, rfl, hEq, hStays⟩
      refine ⟨front, back, ?_, hFront, rfl, rfl, ?_⟩
      · rw [Nat.zero_add, List.take_left]
      · rw [Nat.zero_add, List.take_left]
        rw [Nat.zero_add] at hEq
        exact ⟨staysOpen_zero_iff.mp hStays, hEq⟩
  · cases h

/- A brace without a block is never closed. -/
theorem staysOpen_of_blockAt?
    {front rest : Text}
    (h : blockAt? (front ++ '\x7b' :: rest) front.byteLength = none) :
    StaysOpen 0 rest := by
  unfold blockAt? at h
  rw [dropOctets?_append] at h
  exact staysOpen_of_closeAt?
    (Option.map_eq_none_iff.mp (Option.map_eq_none_iff.mp h))

end Text

end SourceDocs
