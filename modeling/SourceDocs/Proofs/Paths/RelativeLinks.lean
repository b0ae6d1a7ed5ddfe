import SourceDocs.Proofs.Paths.PercentCodes
import SourceDocs.Proofs.Paths.Segments

/-
  Links from one document to another lead where they should.

  A link goes up to the directory that both documents are
  in and down to the goal. Only the names on the way down
  have their spaces encoded.

  Key definitions include:
    * `SourceDocs.DocPath.sharedDirectory`
    * `SourceDocs.DocPath.frontOf`

  Main results:
    * `SourceDocs.DocPath.resolve_relativeLink_encoded`
    * `SourceDocs.DocPath.resolve_relativeLink`
    * `SourceDocs.DocPath.decode_resolve_relativeLink`
    * `SourceDocs.DocPath.mem_relativeLink`
-/

------------------------------------------------------------
-- Spaces
------------------------------------------------------------

namespace SourceDocs

namespace DocPath

theorem encodeSpaces_append (a b : Text) :
    encodeSpaces (a ++ b) = encodeSpaces a ++ encodeSpaces b :=
  List.flatMap_append

/- A path without spaces is not changed. -/
theorem encodeSpaces_eq_self
    {t : Text}
    (ht : ' ' ∉ t) : encodeSpaces t = t := by
  induction t with
  | nil => rfl
  | cons c t ih =>
      rw [List.mem_cons, not_or] at ht
      rw [encodeSpaces, List.flatMap_cons, if_neg (Ne.symm ht.1),
        ← encodeSpaces, ih ht.2, List.singleton_append]

/- Encoding leaves no spaces and brings in codes only. -/
theorem mem_encodeSpaces
    {t : Text}
    {c : Char}
    (hc : c ∈ encodeSpaces t) :
    c ∈ ['%', '2', '0'] ∨ (c ∈ t ∧ c ≠ ' ') := by
  rcases List.mem_flatMap.mp hc with ⟨d, hd, hc⟩
  split_ifs at hc with hSpace
  · exact Or.inl hc
  · rcases List.mem_singleton.mp hc with rfl
    exact Or.inr ⟨hd, hSpace⟩

theorem mem_encodeSpaces_of_mem_space
    {t : Text}
    (ht : ' ' ∈ t) : '%' ∈ encodeSpaces t :=
  List.mem_flatMap.mpr ⟨' ', ht, by simp⟩

/- Slashes are kept, so segments are encoded one by one. -/
theorem encodeSpaces_ofSegments (ss : List Text) :
    encodeSpaces (ofSegments ss) =
      ofSegments (ss.map encodeSpaces) := by
  induction ss with
  | nil => rfl
  | cons s ss ih =>
      cases ss with
      | nil => rw [List.map_singleton, ofSegments_singleton,
          ofSegments_singleton]
      | cons s' ss =>
          rw [ofSegments_cons_cons, encodeSpaces_append,
            List.map_cons, List.map_cons, ofSegments_cons_cons,
            ← List.map_cons, ← ih]
          rfl

theorem IsName.encodeSpaces
    {s : Text}
    (hs : IsName s) : IsName (encodeSpaces s) := by
  by_cases hSpace : ' ' ∈ s
  · have hCode := mem_encodeSpaces_of_mem_space hSpace
    refine ⟨?_, ?_, ?_, fun hMem => ?_, fun hMem => ?_⟩
    · exact List.ne_nil_of_mem hCode
    · intro hEq
      simp [hEq] at hCode
    · intro hEq
      simp [hEq] at hCode
    · rcases mem_encodeSpaces hMem with hMem | ⟨hMem, -⟩
      · simp at hMem
      · exact hs.slash hMem
    · rcases mem_encodeSpaces hMem with hMem | ⟨hMem, -⟩
      · simp at hMem
      · exact hs.backslash hMem
  · rwa [encodeSpaces_eq_self hSpace]

------------------------------------------------------------
-- The Shape Of A Link
------------------------------------------------------------

/- The way up that a link starts with. -/
def ups (k : Nat) : Text :=
  (List.replicate k ['.', '.', '/']).flatten

theorem ups_succ (k : Nat) :
    ups (k + 1) = ['.', '.'] ++ '/' :: ups k := by
  rw [ups, List.replicate_succ, List.flatten_cons]
  rfl

theorem mem_ups
    {k : Nat}
    {c : Char}
    (hc : c ∈ ups k) : c = '.' ∨ c = '/' := by
  rcases List.mem_flatten.mp hc with ⟨s, hs, hc⟩
  rcases List.eq_of_mem_replicate hs with rfl
  simpa using hc

/- How many segments two lists share in front. -/
theorem commonLength_spec (as bs : List Text) :
    commonLength as bs ≤ as.length ∧
      commonLength as bs ≤ bs.length ∧
      as.take (commonLength as bs) =
        bs.take (commonLength as bs) := by
  induction as generalizing bs with
  | nil => simp [commonLength]
  | cons a as ih =>
      cases bs with
      | nil => simp [commonLength]
      | cons b bs =>
          by_cases hab : a = b
          · subst hab
            rcases ih bs with ⟨hAs, hBs, hTake⟩
            rw [commonLength, if_pos rfl]
            simpa using ⟨hAs, hBs, hTake⟩
          · simp [commonLength, hab]

/- A fragment is nothing, or it is behind a number sign. -/
theorem fragment_cases (shown : Option Text) :
    fragment shown = [] ∨
      ∃ anchor, shown = some anchor ∧
        fragment shown = '#' :: anchor := by
  rcases shown with _ | _ | ⟨c, anchor⟩
  · exact Or.inl rfl
  · exact Or.inl rfl
  · exact Or.inr ⟨c :: anchor, rfl, rfl⟩

/- The anchor of a link stands behind its path. -/
theorem relativeLink_eq
    (start goal : Text)
    (anchor : Option Text) :
    relativeLink start goal anchor =
      relativeLink start goal none ++ fragment anchor := by
  simp [relativeLink, fragment]

/- The names that the directories of two documents share. -/
def sharedDirectory (start goal : Text) : List Text :=
  (directory start).take
    (commonLength (directory start) (directory goal))

/- A link goes up, and down to the goal with its spaces encoded. -/
theorem relativeLink_eq_ups (start goal : Text) :
    relativeLink start goal none =
      ups
          ((directory start).length -
            commonLength (directory start) (directory goal)) ++
        ofSegments
          (((names goal).drop
            (commonLength (directory start) (directory goal))).map
              encodeSpaces) := by
  simp only [relativeLink, fragment, List.append_nil]
  rw [directory.eq_def goal]
  generalize
    commonLength (directory start) (names goal).dropLast = common
  have hUps : ' ' ∉ ups ((directory start).length - common) := by
    intro hMem
    rcases mem_ups hMem with hEq | hEq <;> simp at hEq
  rw [← ups, encodeSpaces_append, encodeSpaces_eq_self hUps,
    encodeSpaces_ofSegments]

/- The shared names are those that the goal starts with. -/
theorem sharedDirectory_eq_take (start goal : Text) :
    sharedDirectory start goal =
      (names goal).take
        (commonLength (directory start) (directory goal)) := by
  rcases commonLength_spec (directory start) (directory goal)
    with ⟨-, hThere, hTake⟩
  rw [sharedDirectory, hTake]
  generalize commonLength (directory start) (directory goal) =
    common at hThere ⊢
  rw [directory, List.length_dropLast] at hThere
  rw [directory, List.dropLast_eq_take, List.take_take,
    Nat.min_eq_left hThere]

/-
  The path of a link: up to the names that the directories
  of both documents share, and down.
-/
theorem relativeLink_none
    (start goal : Text) :
    ∃ k ys,
      names goal = sharedDirectory start goal ++ ys ∧
      (ys = [] → names goal = []) ∧
      (directory start).take ((directory start).length - k) =
        sharedDirectory start goal ∧
      relativeLink start goal none =
        ups k ++ ofSegments (ys.map encodeSpaces) := by
  rcases commonLength_spec (directory start) (directory goal)
    with ⟨hHere, hThere, -⟩
  refine ⟨_, _, ?_, fun hNil => ?_, ?_,
    relativeLink_eq_ups start goal⟩
  · rw [sharedDirectory_eq_take, List.take_append_drop]
  · rw [List.drop_eq_nil_iff] at hNil
    have hLast : (directory goal).length = (names goal).length - 1 :=
      List.length_dropLast
    apply List.length_eq_zero_iff.mp
    omega
  · rw [Nat.sub_sub_self hHere, sharedDirectory]

/- The segments of the way up. -/
theorem segments_ups_append
    (k : Nat)
    (p : Text) :
    segments (ups k ++ p) =
      List.replicate k ['.', '.'] ++ segments p := by
  induction k with
  | zero => rfl
  | succ k ih =>
      change segments (['.', '.'] ++ '/' :: (ups k ++ p)) = _
      rw [segments_append_slash, ih, List.replicate_succ,
        segments_of_not_mem (by decide)]
      rfl

/- A link never starts with a slash. -/
theorem head_ups_append_ne
    {ns : List Text}
    (hNames : ∀ s ∈ ns, IsName s)
    (k : Nat)
    (u : Text) : ups k ++ ofSegments ns ≠ '/' :: u := by
  intro hEq
  cases k with
  | succ k =>
      rw [ups_succ] at hEq
      simp at hEq
  | zero =>
      cases ns with
      | nil => simp [ups] at hEq
      | cons s ns =>
          have hName := hNames s List.mem_cons_self
          rcases List.exists_cons_of_ne_nil hName.ne_nil with
            ⟨c, cs, rfl⟩
          have hHead : c = '/' := by
            cases ns with
            | nil =>
                rw [ofSegments_singleton] at hEq
                exact (List.cons.inj hEq).1
            | cons s' ns =>
                rw [ofSegments_cons_cons] at hEq
                exact (List.cons.inj hEq).1
          exact hName.slash (hHead ▸ List.mem_cons_self)

------------------------------------------------------------
-- Following A Link
------------------------------------------------------------

/-
  A target that does not start with a slash is walked from
  the directory of the document.
-/
theorem resolve_eq
    {current target : Text}
    (hCurrent : normalize current = current)
    (hTarget : '\\' ∉ target)
    (hHead : ∀ u, target ≠ '/' :: u) :
    resolve current target =
      ofSegments
        ((segments target).foldl step
          (directory current).reverse).reverse := by
  rcases exists_names_of_normal hCurrent with ⟨ns, hNames, hEq⟩
  have hDirectory : ∀ s ∈ directory current, IsName s := by
    intro s hs
    rw [directory, hEq, names_ofSegments hNames] at hs
    exact hNames s (List.dropLast_subset ns hs)
  rw [resolve, unify_eq_self hTarget]
  split
  · next rooted => exact absurd rfl (hHead rooted)
  · by_cases hBase : ofSegments (directory current) = []
    · have hNil : directory current = [] := by
        rw [← names_ofSegments hDirectory, hBase]
        rfl
      rw [if_pos hBase, normalize_eq hTarget, hNil, walk,
        List.reverse_nil]
    · have hPath :
          '\\' ∉ ofSegments (directory current) ++ '/' :: target := by
        rw [List.mem_append, List.mem_cons, not_or, not_or]
        exact ⟨not_mem_ofSegments hDirectory, by decide, hTarget⟩
      rw [if_neg hBase, normalize_eq hPath, walk,
        segments_append_slash, List.foldl_append,
        foldl_step_segments hDirectory, List.append_nil]

/- Names in front of a path, with a slash behind each. -/
def frontOf (ns : List Text) : Text :=
  ns.flatMap (· ++ ['/'])

theorem ofSegments_cons
    {ss : List Text}
    (hNil : ss ≠ [])
    (s : Text) :
    ofSegments (s :: ss) = s ++ '/' :: ofSegments ss := by
  rcases List.exists_cons_of_ne_nil hNil with ⟨s', ss, rfl⟩
  exact ofSegments_cons_cons s s' ss

theorem ofSegments_append
    {ys : List Text}
    (hNil : ys ≠ [])
    (xs : List Text) :
    ofSegments (xs ++ ys) = frontOf xs ++ ofSegments ys := by
  induction xs with
  | nil => rfl
  | cons x xs ih =>
      have hRest : xs ++ ys ≠ [] := by simp [hNil]
      rw [List.cons_append, ofSegments_cons hRest, ih, frontOf,
        frontOf, List.flatMap_cons]
      simp

/- The way up and down leads to the names on it. -/
theorem resolve_ups_ofSegments
    {current : Text}
    {ns : List Text}
    (hCurrent : normalize current = current)
    (hNames : ∀ s ∈ ns, IsName s)
    (k : Nat) :
    resolve current (ups k ++ ofSegments ns) =
      ofSegments
        ((directory current).take
          ((directory current).length - k) ++ ns) := by
  have hBackslash : '\\' ∉ ups k ++ ofSegments ns := by
    rw [List.mem_append, not_or]
    refine ⟨fun hMem => ?_, not_mem_ofSegments hNames⟩
    rcases mem_ups hMem with hEq | hEq <;> simp at hEq
  rw [resolve_eq hCurrent hBackslash
      (head_ups_append_ne hNames k),
    segments_ups_append, List.foldl_append, foldl_step_ups,
    foldl_step_segments hNames, List.reverse_append,
    List.reverse_reverse, List.reverse_drop,
    List.length_reverse, List.reverse_reverse]

/-
  A link leads to its goal, but with the spaces encoded that
  stand behind the directory in common.
-/
theorem resolve_relativeLink_encoded
    {current goal : Text}
    (hCurrent : normalize current = current)
    (hGoal : normalize goal = goal) :
    ∃ rest,
      goal = frontOf (sharedDirectory current goal) ++ rest ∧
      resolve current (relativeLink current goal none) =
        frontOf (sharedDirectory current goal) ++
          encodeSpaces rest := by
  rcases exists_names_of_normal hGoal with ⟨ns, hNames, hEq⟩
  rcases relativeLink_none current goal with
    ⟨k, ys, hSplit, hLast, hShared, hLink⟩
  have hParts : names goal = ns := by
    rw [hEq, names_ofSegments hNames]
  have hNs : ns = sharedDirectory current goal ++ ys :=
    hParts.symm.trans hSplit
  have hDown : ∀ s ∈ ys.map encodeSpaces, IsName s := by
    intro s hs
    rcases List.mem_map.mp hs with ⟨t, ht, rfl⟩
    exact (hNames t (hNs ▸ List.mem_append_right _ ht)).encodeSpaces
  have hResolve :
      resolve current (relativeLink current goal none) =
        ofSegments
          (sharedDirectory current goal ++
            ys.map encodeSpaces) := by
    rw [hLink, resolve_ups_ofSegments hCurrent hDown, hShared]
  have hPut :
      ∀ zs : List Text, (zs = [] → ys = []) →
        ofSegments (sharedDirectory current goal ++ zs) =
          frontOf (sharedDirectory current goal) ++
            ofSegments zs := by
    intro zs hZs
    by_cases hNil : zs = []
    · have hNone := hSplit.symm.trans (hLast (hZs hNil))
      rw [(List.append_eq_nil_iff.mp hNone).1, hNil]
      rfl
    · exact ofSegments_append hNil _
  refine ⟨ofSegments ys, ?_, ?_⟩
  · rw [← hPut ys id, ← hNs]
    exact hEq
  · rw [hResolve, hPut _ (by simp), encodeSpaces_ofSegments]

section Following

variable {current goal : Text}

/- Without spaces a link leads to its goal. -/
theorem resolve_relativeLink
    (hCurrent : normalize current = current)
    (hGoal : normalize goal = goal)
    (hSpace : ' ' ∉ goal) :
    resolve current (relativeLink current goal none) = goal := by
  rcases resolve_relativeLink_encoded hCurrent hGoal with
    ⟨rest, hEq, hResolve⟩
  have hRest : ' ' ∉ rest := by
    rw [hEq, List.mem_append, not_or] at hSpace
    exact hSpace.2
  rw [hResolve, encodeSpaces_eq_self hRest]
  exact hEq.symm

/- Without percent signs it does so once it is decoded. -/
theorem decode_resolve_relativeLink
    (hCurrent : normalize current = current)
    (hGoal : normalize goal = goal)
    (hCode : '%' ∉ goal) :
    PercentCode.decode
      (resolve current (relativeLink current goal none)) =
        goal := by
  rcases resolve_relativeLink_encoded hCurrent hGoal with
    ⟨rest, hEq, hResolve⟩
  have hPlain :
      '%' ∉ frontOf (sharedDirectory current goal) ++ rest :=
    hEq ▸ hCode
  rw [hResolve, PercentCode.decode_append_encodeSpaces hPlain]
  exact hEq.symm

/- The end of a path is that of its last segments. -/
theorem suffix_ofSegments
    {ending : Text}
    (hSlash : '/' ∉ ending)
    {ys : List Text}
    (hNil : ys ≠ [])
    {xs : List Text}
    (hEnding : ending <:+ ofSegments (xs ++ ys)) :
    ending <:+ ofSegments ys := by
  induction xs with
  | nil => exact hEnding
  | cons x xs ih =>
      have hRest : xs ++ ys ≠ [] := by simp [hNil]
      rw [List.cons_append, ofSegments_cons hRest] at hEnding
      refine ih ?_
      rcases List.suffix_or_suffix_of_suffix hEnding
          (List.suffix_append x ('/' :: ofSegments (xs ++ ys)))
        with hBehind | hAround
      · rcases List.suffix_cons_iff.mp hBehind with rfl | hBehind
        · exact absurd List.mem_cons_self hSlash
        · exact hBehind
      · exact absurd (hAround.subset List.mem_cons_self) hSlash

/- Decoded, a link ends as its goal does. -/
theorem suffix_decode_relativeLink
    {ending : Text}
    (hGoal : normalize goal = goal)
    (hCode : '%' ∉ goal)
    (hSlash : '/' ∉ ending)
    (hNil : ending ≠ [])
    (hEnding : ending <:+ goal) :
    ending <:+
      PercentCode.decode (relativeLink current goal none) := by
  rcases exists_names_of_normal hGoal with ⟨ns, hNames, hEq⟩
  rcases relativeLink_none current goal with
    ⟨k, ys, hSplit, hLast, -, hLink⟩
  have hParts : names goal = ns := by
    rw [hEq, names_ofSegments hNames]
  have hGoalEq :
      goal = ofSegments (sharedDirectory current goal ++ ys) := by
    rw [← hSplit, hParts, ← hEq]
  have hYs : ys ≠ [] := by
    intro hYsNil
    rw [hEq, ← hParts, hLast hYsNil] at hEnding
    exact hNil (List.suffix_nil.mp hEnding)
  have hPlain : '%' ∉ ups k ++ ofSegments ys := by
    rw [List.mem_append, not_or]
    refine ⟨fun hMem => ?_, fun hMem => hCode ?_⟩
    · rcases mem_ups hMem with hChar | hChar <;> simp at hChar
    · rcases mem_ofSegments hMem with hChar | ⟨s, hs, hMem⟩
      · simp at hChar
      · have hName : s ∈ names goal :=
          hSplit ▸ List.mem_append_right _ hs
        exact mem_of_mem_names hName hMem
  rw [hLink, ← encodeSpaces_ofSegments,
    PercentCode.decode_append_encodeSpaces hPlain]
  rw [hGoalEq] at hEnding
  exact (suffix_ofSegments hSlash hYs hEnding).trans
    (List.suffix_append _ _)

end Following

------------------------------------------------------------
-- The Characters Of A Link
------------------------------------------------------------

/- What a link to a document can hold besides its path. -/
theorem mem_relativeLink
    {start goal : Text}
    {c : Char}
    (hc : c ∈ relativeLink start goal none) :
    c ∈ ['.', '/', '%', '2', '0'] ∨ (c ∈ goal ∧ c ≠ ' ') := by
  rcases relativeLink_none start goal with
    ⟨k, ys, hSplit, -, -, hLink⟩
  rw [hLink, ← encodeSpaces_ofSegments] at hc
  rcases List.mem_append.mp hc with hc | hc
  · left
    rcases mem_ups hc with rfl | rfl <;> simp
  · rcases mem_encodeSpaces hc with hc | ⟨hc, hSpace⟩
    · exact Or.inl
        (List.mem_cons_of_mem _ (List.mem_cons_of_mem _ hc))
    · rcases mem_ofSegments hc with rfl | ⟨s, hs, hc⟩
      · left
        simp
      · right
        have hName : s ∈ names goal :=
          hSplit ▸ List.mem_append_right _ hs
        exact ⟨mem_of_mem_names hName hc, hSpace⟩

end DocPath

end SourceDocs
