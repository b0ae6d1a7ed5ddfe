import SourceDocs.Proofs.SourceUrl.StandInRepair

/-
  Texts whose stand-ins were written anew.

  Where stand-ins are removed, or replaced by settled URLs,
  nothing new is read: the text around them does not join
  with what is written, or across it. So after repair all
  stand-ins are kept, and so are the URLs that were.

  Key definitions include:
    * `SourceDocs.StandInUrl.Rewritten`
    * `SourceDocs.SourceRepair.IsSettled`
    * `SourceDocs.SourceRepair.SettlesStandIns`

  Main results:
    * `SourceDocs.StandInUrl.Rewritten.prefix_iff`
    * `SourceDocs.SourceRepair.rewritten_repairStandIns`
    * `SourceDocs.SourceRepair.keepsStandIns_repairStandIns`
    * `SourceDocs.SourceRepair.repairUrl_repairStandIns`
-/

------------------------------------------------------------
-- Rewritten Texts
------------------------------------------------------------

namespace SourceDocs

namespace StandInUrl

/-
  Two texts of which the second has an address, or nothing,
  in place of some addresses in the first.
-/
inductive Rewritten : Text → Text → Prop
| nil : Rewritten [] []
| same {a b : Text} (c : Char) (h : Rewritten a b) :
    Rewritten (c :: a) (c :: b)
| swap {x y a b : Text}
    (hOld : Link.IsAddress x)
    (hNew : y = [] ∨ Link.IsAddress y)
    (hEnds : Ends a)
    (h : Rewritten a b) :
    Rewritten (x ++ a) (y ++ b)

namespace Rewritten

variable {a b : Text}

theorem append_same
    (h : Rewritten a b)
    (x : Text) : Rewritten (x ++ a) (x ++ b) := by
  induction x with
  | nil => exact h
  | cons c x ih => exact ih.same c

/- Where one of them is at an end, so is the other. -/
theorem ends
    (h : Rewritten a b)
    (hEnds : Ends a) : Ends b := by
  cases h with
  | nil => exact hEnds
  | same c h => exact ends_cons (hEnds c rfl) _
  | @swap x y a b hOld hNew hBehind h =>
      rcases hOld.exists_eq with ⟨u, rfl⟩
      exact absurd (hEnds 'h' rfl) (by decide)

/- A text that neither an address nor an end starts with. -/
def IsInner (p : Text) : Prop :=
  (∀ q, q <:+ p → q ≠ [] → ¬ q.take 2 <+: ['h', 't']) ∧
    ∀ c ∈ p, isRestChar c = true

theorem not_prefix_of_isAddress
    {p x : Text}
    (hInner : IsInner p)
    (hNil : p ≠ [])
    (hx : Link.IsAddress x) : ¬ p <+: x ++ a := by
  intro hPrefix
  rcases hx.exists_eq with ⟨u, rfl⟩
  apply hInner.1 p List.suffix_rfl hNil
  have hTake := hPrefix.take 2
  exact hTake

/- Both texts start with the same such texts. -/
theorem prefix_iff
    (h : Rewritten a b)
    {p : Text}
    (hInner : IsInner p) : p <+: a ↔ p <+: b := by
  induction h generalizing p with
  | nil => rfl
  | @same a b c h ih =>
      cases p with
      | nil => simp
      | cons d p =>
          rw [List.cons_prefix_cons, List.cons_prefix_cons,
            ih ⟨fun q hq => hInner.1 q
                (hq.trans (List.suffix_cons d p)),
              fun e he => hInner.2 e (List.mem_cons_of_mem d he)⟩]
  | @swap x y a b hOld hNew hEnds h ih =>
      by_cases hNil : p = []
      · simp [hNil]
      · have hLeft := not_prefix_of_isAddress (a := a) hInner
          hNil hOld
        have hRight : ¬ p <+: y ++ b := by
          rcases hNew with rfl | hNew
          · exact not_prefix_of_ends hNil hInner.2 (h.ends hEnds)
          · exact not_prefix_of_isAddress hInner hNil hNew
        exact iff_of_false hLeft hRight

theorem isInner_of_mem_fronts
    {front : Text}
    (h : front ∈ fronts) : IsInner front.tail := by
  have hTails :
      ∀ front ∈ fronts, ∀ q ∈ front.tail.tails, q ≠ [] →
        ¬ q.take 2 <+: ['h', 't'] := by
    decide
  constructor
  · intro q hq
    exact hTails front h q ((List.mem_tails _ _).mpr hq)
  · intro c hc
    exact isRestChar_of_mem_fronts h c (List.mem_of_mem_tail hc)

/- Nothing is read in one place that is not in the other. -/
theorem reader_eq_none
    (h : Rewritten a b)
    {c : Char}
    (hNone : reader none (c :: a) = none) :
    reader none (c :: b) = none := by
  rw [reader_eq_none_iff] at hNone ⊢
  intro front hFront hPrefix
  apply hNone front hFront
  have hInner := isInner_of_mem_fronts hFront
  rcases List.exists_cons_of_ne_nil
    (ne_nil_of_mem_fronts hFront) with ⟨d, front, rfl⟩
  rw [List.cons_prefix_cons] at hPrefix ⊢
  exact ⟨hPrefix.1, (h.prefix_iff hInner).mpr hPrefix.2⟩

theorem restOf_eq_nil_iff
    (t : Text) : restOf t = [] ↔ ¬ ['/'] <+: t := by
  rw [restOf.eq_def]
  split
  · simp
  · next hNot =>
      refine iff_of_true rfl ?_
      rintro ⟨u, rfl⟩
      exact hNot u rfl

/- What is read in front of rewritten text stays. -/
theorem reader_eq_some
    (h : Rewritten a b)
    {x : Text}
    {v : StandInUrl}
    (hRead : reader none (x ++ a) = some (v, x)) :
    reader none (x ++ b) = some (v, x) := by
  by_cases hRest : v = ⟨[]⟩
  · subst hRest
    rcases reader_eq_some_iff.mp hRead with
      ⟨front, hFront, rest, hEq, hLink, hValue, hCovered⟩
    have hNil : restOf rest = [] := by
      simpa using hValue.symm
    rw [hNil, List.append_nil] at hCovered
    subst hCovered
    rw [List.append_cancel_left_eq] at hEq
    subst hEq
    have hMark : IsInner linkMark := by
      have hTails :
          ∀ q ∈ linkMark.tails, q ≠ [] →
            ¬ q.take 2 <+: ['h', 't'] := by
        decide
      exact ⟨fun q hq => hTails q ((List.mem_tails _ _).mpr hq),
        by decide⟩
    have hSlash : IsInner ['/'] := by
      have hTails :
          ∀ q ∈ ['/'].tails, q ≠ [] →
            ¬ q.take 2 <+: ['h', 't'] := by
        decide
      exact ⟨fun q hq => hTails q ((List.mem_tails _ _).mpr hq),
        by decide⟩
    rw [restOf_eq_nil_iff, h.prefix_iff hSlash,
      ← restOf_eq_nil_iff] at hNil
    rw [h.prefix_iff hMark] at hLink
    exact reader_eq_some_iff.mpr
      ⟨x, hFront, b, rfl, hLink, by rw [hNil],
        by rw [hNil, List.append_nil]⟩
  · have hEnds := ends_of_reader hRead hRest
    rw [reader_append_of_ends hEnds] at hRead
    rwa [reader_append_of_ends (h.ends hEnds)]

end Rewritten

end StandInUrl

------------------------------------------------------------
-- Repair Of Stand-Ins
------------------------------------------------------------

namespace SourceRepair

variable {repair : SourceRepair}
variable {t : Text}

/- An address in which repair keeps every stand-in. -/
structure IsSettled
    (repair : SourceRepair)
    (url : Text) : Prop where
  standIns : repair.KeepsStandIns url
  address : Link.IsAddress url

instance (repair : SourceRepair) (url : Text) :
    Decidable (repair.IsSettled url) :=
  decidable_of_iff
    (repair.KeepsStandIns url ∧ Link.IsAddress url)
    ⟨fun h => ⟨h.1, h.2⟩, fun h => ⟨h.standIns, h.address⟩⟩

/-
  Whether repair settles on a stand-in: what it writes is
  settled, and it takes no opening bracket out of the text.
-/
def SettlesStandIn (repair : SourceRepair) (x : Text) : Prop :=
  (repair.repairUrl x).Writes repair.IsSettled ∧
    (repair.repairUrl x ≠ .keep → '[' ∉ x)

instance (repair : SourceRepair) (x : Text) :
    Decidable (repair.SettlesStandIn x) :=
  inferInstanceAs (Decidable (_ ∧ (_ → _)))

/- Whether it does on all stand-ins in a text. -/
def SettlesStandIns (repair : SourceRepair) (t : Text) : Prop :=
  ∀ found ∈ Text.seen StandInUrl.reader t,
    repair.SettlesStandIn found.2

instance (repair : SourceRepair) (t : Text) :
    Decidable (repair.SettlesStandIns t) :=
  inferInstanceAs (Decidable (∀ _ ∈ _, _))

/- A stand-in that is not kept goes on to an end. -/
theorem ends_of_not_kept
    {x u : Text}
    {v : StandInUrl}
    (hRead : StandInUrl.reader none (x ++ u) = some (v, x))
    (hNot : repair.repairUrl x ≠ .keep) :
    StandInUrl.Ends u := by
  apply StandInUrl.ends_of_reader hRead
  rintro rfl
  rw [repairUrl_of_reader hRead, repairStandIn_nil] at hNot
  exact hNot rfl

/- Repair writes stand-ins anew, and leaves all else. -/
theorem rewritten_repairStandIns
    (h : repair.SettlesStandIns t) :
    StandInUrl.Rewritten t (repair.repairStandIns t) := by
  induction t using
    Text.cut_induction StandInUrl.reader_steady with
  | nil => exact .nil
  | skip c t hSkips ih =>
      have hNone := (StandInUrl.skips_iff _).mp hSkips
      rw [SettlesStandIns, StandInUrl.seen_cons hNone] at h
      rw [repairStandIns_cons hNone]
      exact (ih h).same c
  | found v x u hCovers hRead ih =>
      rw [SettlesStandIns, StandInUrl.seen_of_found hRead,
        List.forall_mem_cons] at h
      rcases h with ⟨⟨hSettles, hOpen⟩, h⟩
      rw [repairStandIns_of_found hRead, repairBare]
      cases hVerdict : repair.repairUrl x with
      | keep => exact (ih h).append_same x
      | remove =>
          have hNot : repair.repairUrl x ≠ .keep := by
            simp [hVerdict]
          exact .swap
            (StandInUrl.isAddress_of_reader hRead (hOpen hNot))
            (Or.inl rfl) (ends_of_not_kept hRead hNot) (ih h)
      | replace url =>
          have hNot : repair.repairUrl x ≠ .keep := by
            simp [hVerdict]
          rw [hVerdict] at hSettles
          exact .swap
            (StandInUrl.isAddress_of_reader hRead (hOpen hNot))
            (Or.inr hSettles.address)
            (ends_of_not_kept hRead hNot) (ih h)

/- After repair all stand-ins are kept. -/
theorem keepsStandIns_repairStandIns
    (h : repair.SettlesStandIns t) :
    repair.KeepsStandIns (repair.repairStandIns t) := by
  induction t using
    Text.cut_induction StandInUrl.reader_steady with
  | nil =>
      intro found hFound
      cases hFound
  | skip c t hSkips ih =>
      have hNone := (StandInUrl.skips_iff _).mp hSkips
      rw [SettlesStandIns, StandInUrl.seen_cons hNone] at h
      rw [repairStandIns_cons hNone, KeepsStandIns,
        StandInUrl.seen_cons
          ((rewritten_repairStandIns h).reader_eq_none hNone)]
      exact ih h
  | found v x u hCovers hRead ih =>
      rw [SettlesStandIns, StandInUrl.seen_of_found hRead,
        List.forall_mem_cons] at h
      rcases h with ⟨⟨hSettles, -⟩, h⟩
      have hRewritten := rewritten_repairStandIns h
      have hLater := ih h
      rw [repairStandIns_of_found hRead, repairBare]
      cases hVerdict : repair.repairUrl x with
      | keep =>
          rw [KeepsStandIns,
            StandInUrl.seen_of_found
              (hRewritten.reader_eq_some hRead),
            List.forall_mem_cons]
          rw [repairUrl_of_reader hRead] at hVerdict
          exact ⟨hVerdict, hLater⟩
      | remove => exact hLater
      | replace url =>
          have hNot : repair.repairUrl x ≠ .keep := by
            simp [hVerdict]
          have hEnds :=
            hRewritten.ends (ends_of_not_kept hRead hNot)
          rw [hVerdict] at hSettles
          rw [KeepsStandIns, StandInUrl.seen_append_of_ends hEnds,
            List.forall_mem_append]
          exact ⟨hSettles.standIns, hLater⟩

------------------------------------------------------------
-- URLs With Stand-Ins
------------------------------------------------------------

/- If the first stand-in is kept, it stays the first. -/
theorem seen_repairStandIns
    (h : repair.SettlesStandIns t)
    {v : StandInUrl}
    {x : Text}
    {rest : List (StandInUrl × Text)}
    (hSeen : Text.seen StandInUrl.reader t = (v, x) :: rest)
    (hKept : repair.repairStandIn v = .keep) :
    ∃ rest' gap,
      Text.seen StandInUrl.reader (repair.repairStandIns t) =
        (v, x) :: rest' ∧
      gap ++ x <+: t ∧ gap ++ x <+: repair.repairStandIns t := by
  induction t using
    Text.cut_induction StandInUrl.reader_steady with
  | nil => cases hSeen
  | skip c t hSkips ih =>
      have hNone := (StandInUrl.skips_iff _).mp hSkips
      rw [SettlesStandIns, StandInUrl.seen_cons hNone] at h
      rw [StandInUrl.seen_cons hNone] at hSeen
      rcases ih h hSeen with ⟨rest', gap, hSame, hOld, hNew⟩
      rw [repairStandIns_cons hNone,
        StandInUrl.seen_cons
          ((rewritten_repairStandIns h).reader_eq_none hNone)]
      refine ⟨rest', c :: gap, hSame, ?_, ?_⟩
      · exact List.cons_prefix_cons.mpr ⟨rfl, hOld⟩
      · exact List.cons_prefix_cons.mpr ⟨rfl, hNew⟩
  | found v' x' u hCovers hRead ih =>
      rw [SettlesStandIns, StandInUrl.seen_of_found hRead,
        List.forall_mem_cons] at h
      rw [StandInUrl.seen_of_found hRead] at hSeen
      cases hSeen
      have hVerdict : repair.repairUrl x = .keep :=
        (repairUrl_of_reader hRead).trans hKept
      have hStays :=
        (rewritten_repairStandIns h.2).reader_eq_some hRead
      rw [repairStandIns_of_found hRead, repairBare, hVerdict]
      exact ⟨_, [], StandInUrl.seen_of_found hStays,
        List.prefix_append x u, List.prefix_append x _⟩

/- A URL that is kept still is when its stand-ins are. -/
theorem repairUrl_repairStandIns
    (h : repair.SettlesStandIns t)
    (hKept : repair.repairUrl t = .keep) :
    repair.repairUrl (repair.repairStandIns t) = .keep := by
  cases hSeen : Text.seen StandInUrl.reader t with
  | nil =>
      have hNone : repair.KeepsStandIns t := by
        intro found hFound
        rw [hSeen] at hFound
        cases hFound
      rwa [repairStandIns_eq_self hNone]
  | cons found rest =>
      rcases found with ⟨v, x⟩
      rw [repairUrl_of_seen_cons hSeen] at hKept
      rcases seen_repairStandIns h hSeen hKept with
        ⟨rest', -, hSame, -⟩
      rw [repairUrl_of_seen_cons hSame, hKept]

end SourceRepair

end SourceDocs
