import SourceDocs.Proofs.Declaration.Blocks
import SourceDocs.Proofs.Text.OctetMarks

/-
  Where blocks start and stop.

  The places of a block are told in octets. As braces are
  ASCII, they are counted among the octets as in the text:
  a block is closed at the least place up to which as many
  braces are closed as are opened. Inside of it more are
  open than before it, so two blocks of a text lie apart or
  one inside the other.

  Key definitions include:
    * `SourceDocs.Octets.ClosesAt`
    * `SourceDocs.Octets.height`

  Main results:
    * `SourceDocs.Octets.ClosesAt.height_lt`
    * `SourceDocs.Octets.ClosesAt.apart_or_nested`
    * `SourceDocs.Text.exists_blockAt?_iff`
    * `SourceDocs.Text.blockAt?_closes_and_nests`
-/

------------------------------------------------------------
-- Braces Among Octets
------------------------------------------------------------

namespace SourceDocs

namespace Octets

def openingBrace : UInt8 := Char.toUInt8 '\x7b'

def closingBrace : UInt8 := Char.toUInt8 '\x7d'

/- The octets from one place to another, both included. -/
def between
    (octets : Octets)
    (first last : Nat) : Octets :=
  (octets.take (last + 1)).drop first

/- Whether as many braces are closed as are opened. -/
def IsEven (octets : Octets) : Prop :=
  octets.count closingBrace = octets.count openingBrace

/-
  Whether a brace stands at the first place and the last one
  is the least behind it up to where braces are even.
-/
structure ClosesAt
    (octets : Octets)
    (first last : Nat) : Prop where
  opens : octets[first]? = some openingBrace
  behind : first < last
  inside : last < octets.length
  even : IsEven (octets.between first last)
  least :
    ∀ n, first < n → n < last →
      ¬ IsEven (octets.between first n)

/- How many blocks are open behind so many octets. -/
def height
    (octets : Octets)
    (n : Nat) : Int :=
  (octets.take n).count openingBrace -
    (octets.take n).count closingBrace

variable {octets : Octets}

theorem isEven_between_iff
    {first n : Nat}
    (h : first ≤ n + 1) :
    IsEven (octets.between first n) ↔
      octets.height (n + 1) = octets.height first := by
  have hTake :
      octets.take (n + 1) =
        octets.take first ++ octets.between first n := by
    have hFront :
        octets.take first = (octets.take (n + 1)).take first := by
      rw [List.take_take, Nat.min_eq_left h]
    rw [hFront, between, List.take_append_drop]
  unfold height IsEven
  rw [hTake, List.count_append, List.count_append]
  omega

theorem height_succ_of_opening
    {n : Nat}
    (h : octets[n]? = some openingBrace) :
    octets.height (n + 1) = octets.height n + 1 := by
  unfold height
  rw [List.take_add_one, h, List.count_append, List.count_append]
  have hNone :
      (some openingBrace).toList.count closingBrace = 0 := by decide
  have hOne :
      (some openingBrace).toList.count openingBrace = 1 := by decide
  rw [hNone, hOne]
  omega

/- One octet closes one block at most. -/
theorem height_le_succ
    (octets : Octets)
    (n : Nat) : octets.height n ≤ octets.height (n + 1) + 1 := by
  have hOne :
      (octets[n]?.toList).count closingBrace ≤ 1 := by
    refine Nat.le_trans List.count_le_length ?_
    cases octets[n]? with
    | none => exact Nat.zero_le _
    | some b => exact Nat.le_refl _
  unfold height
  rw [List.take_add_one, List.count_append, List.count_append]
  omega

namespace ClosesAt

variable {first last : Nat}

/- Where a block is closed as many are open as before it. -/
theorem height_eq
    (h : octets.ClosesAt first last) :
    octets.height (last + 1) = octets.height first :=
  (isEven_between_iff (Nat.le_succ_of_le h.behind.le)).mp h.even

/- Inside of a block more are open. -/
theorem height_lt
    (h : octets.ClosesAt first last)
    {n : Nat}
    (hFirst : first < n)
    (hLast : n ≤ last) : octets.height first < octets.height n := by
  induction n, hFirst using Nat.le_induction with
  | base =>
      rw [height_succ_of_opening h.opens]
      omega
  | succ n hFirst ih =>
      have hBefore := ih (by omega)
      have hStep := octets.height_le_succ n
      have hNe : octets.height (n + 1) ≠ octets.height first := by
        rw [ne_eq, ← isEven_between_iff (by omega)]
        exact h.least n hFirst hLast
      omega

/- A block is closed at one place. -/
theorem unique
    {last' : Nat}
    (h : octets.ClosesAt first last)
    (h' : octets.ClosesAt first last') : last = last' := by
  have hBehind := h.behind
  have hBehind' := h'.behind
  rcases Nat.lt_trichotomy last last' with hLt | hEq | hLt
  · exact absurd h.even (h'.least last hBehind hLt)
  · exact hEq
  · exact absurd h'.even (h.least last' hBehind' hLt)

/- A block that starts inside of another ends there. -/
theorem last_le
    {first' last' : Nat}
    (h : octets.ClosesAt first last)
    (h' : octets.ClosesAt first' last')
    (hFirst : first < first')
    (hLast : first' ≤ last) : last' ≤ last := by
  by_contra hLong
  have hInside := h.height_lt hFirst hLast
  have hInside' :=
    h'.height_lt (n := last + 1) (by omega) (by omega)
  rw [h.height_eq] at hInside'
  omega

/- Two blocks lie apart, or one of them lies in the other. -/
theorem apart_or_nested
    {first' last' : Nat}
    (h : octets.ClosesAt first last)
    (h' : octets.ClosesAt first' last') :
    (last < first' ∨ last' < first) ∨
      (first ≤ first' ∧ last' ≤ last) ∨
      (first' ≤ first ∧ last ≤ last') := by
  rcases Nat.lt_trichotomy first first' with hLt | rfl | hLt
  · by_cases hApart : last < first'
    · exact Or.inl (Or.inl hApart)
    · exact Or.inr (Or.inl
        ⟨hLt.le, h.last_le h' hLt (by omega)⟩)
  · exact Or.inr (Or.inl ⟨Nat.le_refl _, (h.unique h').ge⟩)
  · by_cases hApart : last' < first
    · exact Or.inl (Or.inr hApart)
    · exact Or.inr (Or.inr
        ⟨hLt.le, h'.last_le h hLt (by omega)⟩)

end ClosesAt

/- What stands behind a front, up to some place. -/
theorem between_append
    (front : Octets)
    (b : UInt8)
    (rest : Octets)
    (k : Nat) :
    (front ++ b :: rest).between front.length (front.length + k) =
      b :: rest.take k := by
  have hAssoc : front.length + k + 1 = front.length + (k + 1) := by
    omega
  rw [between, hAssoc, List.take_length_add_append,
    List.drop_left, List.take_succ_cons]

end Octets

------------------------------------------------------------
-- Matching Braces
------------------------------------------------------------

namespace Text

theorem toOctets_opened
    (front rest : Text) :
    toOctets (front ++ '\x7b' :: rest) =
      front.toOctets ++ Octets.openingBrace :: rest.toOctets := by
  rw [toOctets_append, toOctets_cons,
    utf8EncodeChar_of_isAscii (by decide)]
  rfl

/- Behind a brace, octets are not even while it stays open. -/
theorem StaysOpen.not_isEven
    {t : Text}
    (h : StaysOpen 0 t)
    {p : Octets}
    (hp : p <+: t.toOctets) :
    ¬ Octets.IsEven (Octets.openingBrace :: p) := by
  rcases exists_prefix_of_prefix_toOctets hp with ⟨q, hq, hCount⟩
  have hLe := staysOpen_zero_iff.mp h q hq
  have hOpen : p.count Octets.openingBrace = q.count '\x7b' :=
    hCount '\x7b' (by decide)
  have hClose : p.count Octets.closingBrace = q.count '\x7d' :=
    hCount '\x7d' (by decide)
  unfold Octets.IsEven
  rw [List.count_cons_self, List.count_cons_of_ne (by decide),
    hOpen, hClose]
  omega

theorem isEven_of_isNested
    {inside : Text}
    (h : IsNested '\x7b' '\x7d' inside) :
    Octets.IsEven
      (Octets.openingBrace ::
        (inside.toOctets ++ [Octets.closingBrace])) := by
  have hOpen :
      inside.toOctets.count Octets.openingBrace =
        inside.count '\x7b' := count_toOctets (by decide) inside
  have hClose :
      inside.toOctets.count Octets.closingBrace =
        inside.count '\x7d' := count_toOctets (by decide) inside
  unfold Octets.IsEven
  rw [List.count_cons_self, List.count_cons_of_ne (by decide),
    List.count_append, List.count_append, hOpen, hClose,
    h.count_eq, List.count_singleton_self,
    List.count_singleton]
  rfl

/- A block is closed where its octets tell. -/
theorem closesAt_of_isNested
    {inside : Text}
    (h : IsNested '\x7b' '\x7d' inside)
    (front back : Text) :
    Octets.ClosesAt
      (toOctets (front ++ '\x7b' :: (inside ++ '\x7d' :: back)))
      front.byteLength
      (front.byteLength + 1 + inside.byteLength) := by
  have hStays := staysOpen_zero_iff.mpr h.count_le
  have hClosing :
      toOctets (inside ++ '\x7d' :: back) =
        inside.toOctets ++ Octets.closingBrace :: back.toOctets := by
    rw [toOctets_append, toOctets_cons,
      utf8EncodeChar_of_isAscii (by decide)]
    rfl
  rw [toOctets_opened, hClosing, ← length_toOctets front,
    ← length_toOctets inside]
  constructor
  case opens =>
    rw [List.getElem?_append_right (Nat.le_refl _), Nat.sub_self]
    rfl
  case behind => omega
  case inside =>
    simp only [List.length_append, List.length_cons]
    omega
  case even =>
    rw [Nat.add_assoc, Octets.between_append,
      Nat.add_comm 1, List.take_length_add_append]
    exact isEven_of_isNested h
  case least =>
    intro n hFirst hLast
    rcases Nat.exists_eq_add_of_lt hFirst with ⟨k, rfl⟩
    rw [Nat.add_assoc, Octets.between_append,
      List.take_append_of_le_length (by omega)]
    exact hStays.not_isEven (List.take_prefix _ inside.toOctets)

/- The block that is found is closed at its stop. -/
theorem closesAt_of_blockAt?
    {t : Text}
    {n : Nat}
    {b : Block}
    (h : blockAt? t n = some b) :
    t.toOctets.ClosesAt n b.stop := by
  rcases exists_of_blockAt? h with
    ⟨front, back, rfl, rfl, -, hStop, hNested⟩
  rw [hStop]
  exact closesAt_of_isNested hNested front back

/- Where no block is found, none is closed. -/
theorem not_closesAt_of_blockAt?
    {t : Text}
    {n : Nat}
    (h : blockAt? t n = none)
    (last : Nat) : ¬ t.toOctets.ClosesAt n last := by
  intro hCloses
  have hOpens : t.toOctets[n]? = some (Char.toUInt8 '\x7b') :=
    hCloses.opens
  rcases exists_of_getElem?_toOctets (by decide) hOpens with
    ⟨front, rest, rfl, rfl⟩
  have hEven := hCloses.even
  rcases Nat.exists_eq_add_of_le hCloses.behind.le with ⟨k, rfl⟩
  rw [toOctets_opened, ← length_toOctets front,
    Octets.between_append] at hEven
  exact (staysOpen_of_blockAt? h).not_isEven
    (List.take_prefix k (toOctets rest)) hEven

/- A block is found where octets tell that one is closed. -/
theorem exists_blockAt?_iff
    {t : Text}
    {n first last : Nat} :
    (∃ b, blockAt? t n = some b ∧
        b.start = first ∧ b.stop = last) ↔
      first = n + 1 ∧ t.toOctets.ClosesAt n last := by
  constructor
  · rintro ⟨b, hb, rfl, rfl⟩
    rcases exists_of_blockAt? hb with ⟨_, _, _, _, hStart, -, -⟩
    exact ⟨hStart, closesAt_of_blockAt? hb⟩
  · rintro ⟨rfl, hCloses⟩
    cases hBlock : blockAt? t n with
    | none =>
        exact absurd hCloses (not_closesAt_of_blockAt? hBlock last)
    | some b =>
        rcases exists_of_blockAt? hBlock with
          ⟨_, _, _, _, hStart, -, -⟩
        exact ⟨b, rfl, hStart,
          (closesAt_of_blockAt? hBlock).unique hCloses⟩

theorem blockAt?_eq_none_iff
    {t : Text}
    {n : Nat} :
    blockAt? t n = none ↔ ∀ last, ¬ t.toOctets.ClosesAt n last := by
  refine ⟨not_closesAt_of_blockAt?, fun hNone => ?_⟩
  cases hBlock : blockAt? t n with
  | none => rfl
  | some b => exact absurd (closesAt_of_blockAt? hBlock) (hNone _)

/- A block starts and stops where characters do. -/
theorem exists_text_of_blockAt?
    {t : Text}
    {n : Nat}
    {b : Block}
    (h : blockAt? t n = some b) :
    ∃ front back,
      t = front ++ (b.text ++ back) ∧
        byteLength front = b.start ∧
        byteLength (front ++ b.text) = b.stop := by
  rcases exists_of_blockAt? h with
    ⟨front, back, hText, rfl, hStart, hStop, -⟩
  have hBrace : byteLength ['\x7b'] = 1 := by decide
  refine ⟨front ++ ['\x7b'], '\x7d' :: back, ?_, ?_, ?_⟩
  · rw [hText, List.append_assoc, List.singleton_append]
  · rw [byteLength_append, hBrace, hStart]
  · rw [byteLength_append, byteLength_append, hBrace, hStop]

/-
  A block is what stands between a brace and the one that
  closes it. It starts and stops where characters do, all
  braces inside of it are closed there, and two blocks with
  their braces lie apart or one in the other.
-/
theorem blockAt?_closes_and_nests
    (t : Text) :
    (∀ n first last,
      (∃ b, blockAt? t n = some b ∧
          b.start = first ∧ b.stop = last) ↔
        first = n + 1 ∧ t.toOctets.ClosesAt n last) ∧
    (∀ n, blockAt? t n = none ↔
      ∀ last, ¬ t.toOctets.ClosesAt n last) ∧
    (∀ n b, blockAt? t n = some b →
      (∃ front back,
        t = front ++ (b.text ++ back) ∧
          byteLength front = b.start ∧
          byteLength (front ++ b.text) = b.stop) ∧
        IsNested '\x7b' '\x7d' b.text) ∧
    (∀ m n b c,
      blockAt? t m = some b →
      blockAt? t n = some c →
      (b.stop < n ∨ c.stop < m) ∨
        (m ≤ n ∧ c.stop ≤ b.stop) ∨
        (n ≤ m ∧ b.stop ≤ c.stop)) := by
  refine ⟨?_, ?_, ?_, ?_⟩
  · intro n first last
    exact exists_blockAt?_iff
  · intro n
    exact blockAt?_eq_none_iff
  · intro n b hBlock
    rcases exists_of_blockAt? hBlock with ⟨_, _, _, _, _, _, hNested⟩
    exact ⟨exists_text_of_blockAt? hBlock, hNested⟩
  · intro m n b c hb hc
    exact (closesAt_of_blockAt? hb).apart_or_nested
      (closesAt_of_blockAt? hc)

/- Blocks in a block, behind a character of two octets. -/
def blocksInBlock : Text :=
  "é\x7ba\x7bb\x7d\x7b\x7d\x7d\x7b".toList

theorem blockAt?_blocksInBlock :
    ∃ b c : Block,
      blockAt? blocksInBlock 2 = some b ∧
      blockAt? blocksInBlock 4 = some c ∧
      blockAt? blocksInBlock 10 = none ∧
      blocksInBlock.toOctets.ClosesAt 2 b.stop ∧
      (∀ last, ¬ blocksInBlock.toOctets.ClosesAt 10 last) ∧
      IsNested '\x7b' '\x7d' b.text ∧
      ((b.stop < 4 ∨ c.stop < 2) ∨
        (2 ≤ 4 ∧ c.stop ≤ b.stop) ∨
        (4 ≤ 2 ∧ b.stop ≤ c.stop)) := by
  have hOuter :
      blockAt? blocksInBlock 2 =
        some ⟨3, 9, "a\x7bb\x7d\x7b\x7d".toList⟩ := by
    decide
  have hInner :
      blockAt? blocksInBlock 4 = some ⟨5, 6, "b".toList⟩ := by
    decide
  have hNone : blockAt? blocksInBlock 10 = none := by
    decide
  rcases blockAt?_closes_and_nests blocksInBlock with
    ⟨hIff, hNoneIff, hText, hApart⟩
  refine ⟨_, _, hOuter, hInner, hNone, ?_, ?_, ?_, ?_⟩
  · exact ((hIff 2 3 9).mp ⟨_, hOuter, rfl, rfl⟩).2
  · exact (hNoneIff 10).mp hNone
  · exact (hText 2 _ hOuter).2
  · exact hApart 2 4 _ _ hOuter hInner

end Text

end SourceDocs
