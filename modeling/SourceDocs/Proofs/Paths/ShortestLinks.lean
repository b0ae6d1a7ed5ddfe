import SourceDocs.Proofs.Paths.RelativeLinks

/-
  No target leads to a document in fewer pieces than the
  link to it.

  Each piece of a target moves by one name at most: up, down
  or not at all. So a target has at least as many pieces as
  there are names to leave and to enter on the way, and that
  is how many a link has. Only a directory that the document
  is in is closer than its link, which names it anew.

  Key definitions include:
    * `SourceDocs.DocPath.pieces`
    * `SourceDocs.DocPath.distance`

  Main results:
    * `SourceDocs.DocPath.distance_foldl_step_le`
    * `SourceDocs.DocPath.length_segments_relativeLink`
    * `SourceDocs.DocPath.relativeLink_shortest`
-/

------------------------------------------------------------
-- Pieces Of A Target
------------------------------------------------------------

namespace SourceDocs

namespace DocPath

/- Slashes, and the backslashes that stand for them. -/
def isSlash (c : Char) : Bool :=
  c == '/' || c == '\\'

/- What stands between the slashes of a target. -/
def pieces (target : Text) : List Text :=
  target.splitOnP isSlash

/- The pieces of a target are the segments it stands for. -/
theorem segments_unify (target : Text) :
    segments (unify target) = pieces target := by
  induction target with
  | nil => rfl
  | cons c target ih =>
      have hUnify :
          unify (c :: target) =
            (if c = '\\' then '/' else c) :: unify target := rfl
      rw [hUnify, segments, List.splitOn_cons_eq_if_modifyHead,
        ← segments, ih, pieces, pieces,
        List.splitOnP_cons_eq_if_modifyHead]
      by_cases hBack : c = '\\'
      · subst hBack
        rfl
      · rw [if_neg hBack]
        simp [isSlash, hBack]

/- A target without backslashes is cut at its slashes. -/
theorem pieces_eq_segments
    {target : Text}
    (hTarget : '\\' ∉ target) :
    pieces target = segments target := by
  rw [← segments_unify, unify_eq_self hTarget]

/- A target that is read from a document's directory. -/
def IsRelative (target : Text) : Prop :=
  ∀ c ∈ target.head?, isSlash c = false

instance (target : Text) : Decidable (IsRelative target) :=
  decidable_of_iff (target.head?.all (!isSlash ·) = true)
    (by cases target <;> simp [IsRelative])

theorem IsRelative.unify_ne
    {target : Text}
    (h : IsRelative target)
    (u : Text) : unify target ≠ '/' :: u := by
  intro hEq
  cases target with
  | nil => cases hEq
  | cons c target =>
      have hSlash : isSlash c = false := h c rfl
      have hHead : (if c = '\\' then '/' else c) = '/' :=
        (List.cons.inj hEq).1
      split_ifs at hHead with hBack
      · subst hBack
        cases hSlash
      · subst hHead
        cases hSlash

------------------------------------------------------------
-- Distances
------------------------------------------------------------

/-
  How many names there are between two directories: those to
  leave, up to the directory that both are in, and those to
  enter from there.
-/
def distance (here there : List Text) : Nat :=
  (here.length - commonLength here there) +
    (there.length - commonLength here there)

theorem commonLength_self (as : List Text) :
    commonLength as as = as.length := by
  induction as with
  | nil => rfl
  | cons a as ih =>
      rw [commonLength, if_pos rfl, ih, List.length_cons]

@[simp] theorem distance_self (as : List Text) :
    distance as as = 0 := by
  rw [distance, commonLength_self, Nat.sub_self]

/- One more name is shared or is not. -/
theorem commonLength_concat
    (as bs : List Text)
    (a : Text) :
    commonLength as bs ≤ commonLength (as ++ [a]) bs ∧
      commonLength (as ++ [a]) bs ≤ commonLength as bs + 1 := by
  induction as generalizing bs with
  | nil =>
      cases bs with
      | nil => simp [commonLength]
      | cons b bs =>
          rw [List.nil_append]
          simp only [commonLength]
          split_ifs <;> simp
  | cons a' as ih =>
      cases bs with
      | nil => simp [commonLength]
      | cons b bs =>
          rw [List.cons_append, commonLength, commonLength]
          split_ifs
          · exact ⟨Nat.succ_le_succ (ih bs).1,
              Nat.succ_le_succ (ih bs).2⟩
          · simp

/- So going into a directory, or out of it, is one step. -/
theorem distance_concat
    (as bs : List Text)
    (a : Text) :
    distance as bs ≤ distance (as ++ [a]) bs + 1 ∧
      distance (as ++ [a]) bs ≤ distance as bs + 1 := by
  rcases commonLength_spec as bs with ⟨hLeft, hRight, -⟩
  rcases commonLength_spec (as ++ [a]) bs with
    ⟨hLeft', hRight', -⟩
  rcases commonLength_concat as bs a with ⟨hMore, hOne⟩
  unfold distance
  rw [List.length_append, List.length_singleton] at *
  omega

/- Each segment changes the distance by one at most. -/
theorem distance_step_le
    (stack there : List Text)
    (s : Text) :
    distance stack.reverse there ≤
      distance (step stack s).reverse there + 1 := by
  unfold step
  split_ifs
  · exact Nat.le_succ _
  · cases stack with
    | nil => exact Nat.le_succ _
    | cons a stack =>
        rw [List.reverse_cons]
        exact (distance_concat stack.reverse there a).2
  · rw [List.reverse_cons]
    exact (distance_concat stack.reverse there s).1

/- A walk takes as many segments as it is far to its end. -/
theorem distance_foldl_step_le
    (ss stack : List Text) :
    distance stack.reverse (ss.foldl step stack).reverse ≤
      ss.length := by
  induction ss generalizing stack with
  | nil => simp
  | cons s ss ih =>
      have hStep :=
        distance_step_le stack
          (ss.foldl step (step stack s)).reverse s
      have hRest := ih (step stack s)
      rw [List.foldl_cons, List.length_cons]
      omega

------------------------------------------------------------
-- The Length Of A Link
------------------------------------------------------------

/-
  The last name of a goal makes no difference to what is
  shared, unless the goal is one of the directories.
-/
theorem commonLength_dropLast
    {as bs : List Text}
    (hApart : ¬ bs <+: as) :
    commonLength as bs.dropLast = commonLength as bs := by
  induction as generalizing bs with
  | nil => simp [commonLength]
  | cons a as ih =>
      cases bs with
      | nil => exact absurd List.nil_prefix hApart
      | cons b bs =>
          cases bs with
          | nil =>
              have hNe : a ≠ b := by
                rintro rfl
                exact hApart ⟨as, rfl⟩
              simp [commonLength, hNe]
          | cons b' bs =>
              rw [List.dropLast_cons_cons, commonLength,
                commonLength]
              split_ifs with hEq
              · subst hEq
                rw [ih fun hPrefix =>
                  hApart (List.cons_prefix_cons.mpr ⟨rfl, hPrefix⟩)]
              · rfl

section Links

variable {start goal : Text}

/- A goal that is no directory has a way down. -/
theorem drop_ne_nil_of_normal
    (hGoal : normalize goal = goal)
    (hNil : goal ≠ []) :
    (names goal).drop
      (commonLength (directory start) (directory goal)) ≠ [] := by
  rcases commonLength_spec (directory start) (directory goal)
    with ⟨-, hThere, -⟩
  have hPos :=
    List.length_pos_iff.mpr (names_ne_nil hGoal hNil)
  have hLast : (directory goal).length = (names goal).length - 1 :=
    List.length_dropLast
  rw [Ne, List.drop_eq_nil_iff]
  omega

/- A link has as many segments as it is far to its goal. -/
theorem length_segments_relativeLink
    (hGoal : normalize goal = goal)
    (hNil : goal ≠ [])
    (hApart : ¬ names goal <+: directory start) :
    (segments (relativeLink start goal none)).length =
      distance (directory start) (names goal) := by
  have hDown :
      (names goal).drop
          (commonLength (directory start) (directory goal)) ≠ [] :=
    drop_ne_nil_of_normal hGoal hNil
  have hNames := isName_of_mem_names hGoal
  have hCommon :
      commonLength (directory start) (directory goal) =
        commonLength (directory start) (names goal) :=
    commonLength_dropLast hApart
  rw [relativeLink_eq_ups, segments_ups_append,
    segments_ofSegments, distance, ← hCommon]
  · rw [List.length_append, List.length_replicate,
      List.length_map, List.length_drop]
  · intro s hs
    rcases List.mem_map.mp hs with ⟨s', hs', rfl⟩
    exact (hNames s' (List.mem_of_mem_drop hs')).encodeSpaces
  · rw [Ne, List.map_eq_nil_iff]
    exact hDown

/- Names in front of a path are a path with a slash behind. -/
theorem frontOf_eq
    {ns : List Text}
    (hNil : ns ≠ []) :
    frontOf ns = ofSegments ns ++ ['/'] := by
  induction ns with
  | nil => exact absurd rfl hNil
  | cons n ns ih =>
      rw [frontOf, List.flatMap_cons, ← frontOf]
      cases ns with
      | nil => rw [ofSegments_singleton, frontOf, List.flatMap_nil,
          List.append_nil]
      | cons n' ns =>
          rw [ih (List.cons_ne_nil n' ns), ofSegments_cons_cons]
          simp

/- The path of a document starts with each of its directories. -/
theorem isPrefix_of_names
    (hStart : normalize start = start)
    (hGoal : normalize goal = goal)
    (hNil : goal ≠ [])
    (hPrefix : names goal <+: directory start) :
    goal ++ ['/'] <+: start := by
  have hNames := names_ne_nil hGoal hNil
  rcases hPrefix with ⟨rest, hDirectory⟩
  have hStartNil : names start ≠ [] := by
    intro hEq
    rw [directory, hEq] at hDirectory
    exact hNames (List.append_eq_nil_iff.mp hDirectory).1
  have hSplit :
      names start =
        names goal ++
          (rest ++ [(names start).getLast hStartNil]) := by
    rw [← List.append_assoc, hDirectory, directory,
      List.dropLast_append_getLast]
  rw [← ofSegments_names hStart, hSplit,
    ofSegments_append (by simp), frontOf_eq hNames,
    ofSegments_names hGoal]
  exact List.prefix_append _ _

/- What is walked on the way to a goal leads to its names. -/
theorem foldl_step_of_resolve
    {target : Text}
    (hStart : normalize start = start)
    (hRelative : IsRelative target)
    (hResolve : resolve start target = goal) :
    ((pieces target).foldl step (directory start).reverse).reverse =
      names goal := by
  have hUnified : resolve start (unify target) = goal := by
    rw [← hResolve, resolve, unify_unify, resolve]
  rw [resolve_eq hStart (not_mem_unify target) hRelative.unify_ne,
    segments_unify] at hUnified
  have hSegments :
      ∀ s ∈ pieces target, '/' ∉ s ∧ '\\' ∉ s := by
    intro s hs
    rw [← segments_unify] at hs
    refine ⟨fun hMem => (mem_segments hs _ hMem).1 rfl, ?_⟩
    intro hMem
    exact not_mem_unify target (mem_segments hs _ hMem).2
  have hDirectory :
      ∀ s ∈ (directory start).reverse, IsName s := by
    intro s hs
    have hMem := List.dropLast_subset _ (List.mem_reverse.mp hs)
    exact isName_of_mem_names hStart s hMem
  have hNames := isName_of_mem_foldl_step hSegments hDirectory
  rw [← hUnified, names_ofSegments]
  intro s hs
  exact hNames s (List.mem_reverse.mp hs)

/-
  A target that leads to a goal, in as many pieces as the
  link has segments: the link with its spaces as they are.
-/
theorem exists_target_of_normal
    (hStart : normalize start = start)
    (hGoal : normalize goal = goal)
    (hNil : goal ≠ []) :
    ∃ target, IsRelative target ∧ resolve start target = goal ∧
      (pieces target).length =
        (segments (relativeLink start goal none)).length := by
  let common := commonLength (directory start) (directory goal)
  let down := (names goal).drop common
  let k := (directory start).length - common
  have hDownNil : down ≠ [] := drop_ne_nil_of_normal hGoal hNil
  have hDown : ∀ s ∈ down, IsName s := fun s hs =>
    isName_of_mem_names hGoal s (List.mem_of_mem_drop hs)
  have hEncoded : ∀ s ∈ down.map encodeSpaces, IsName s := by
    intro s hs
    rcases List.mem_map.mp hs with ⟨s', hs', rfl⟩
    exact (hDown s' hs').encodeSpaces
  have hBackslash : '\\' ∉ ups k ++ ofSegments down := by
    rw [List.mem_append, not_or]
    refine ⟨fun hMem => ?_, not_mem_ofSegments hDown⟩
    rcases mem_ups hMem with hEq | hEq <;> simp at hEq
  refine ⟨ups k ++ ofSegments down, ?_, ?_, ?_⟩
  · intro c hc
    rw [isSlash, Bool.or_eq_false_iff, beq_eq_false_iff_ne,
      beq_eq_false_iff_ne]
    constructor
    · rintro rfl
      rcases List.head?_eq_some_iff.mp hc with ⟨u, hu⟩
      exact head_ups_append_ne hDown k u hu
    · rintro rfl
      exact hBackslash (List.mem_of_mem_head? hc)
  · have hHere :=
      (commonLength_spec (directory start) (directory goal)).1
    rw [resolve_ups_ofSegments hStart hDown,
      Nat.sub_sub_self hHere, ← sharedDirectory,
      sharedDirectory_eq_take, List.take_append_drop,
      ofSegments_names hGoal]
  · rw [pieces_eq_segments hBackslash, relativeLink_eq_ups,
      segments_ups_append, segments_ups_append,
      segments_ofSegments hDown hDownNil,
      segments_ofSegments hEncoded (by simpa using hDownNil),
      List.length_append, List.length_append, List.length_map]

/-
  No target leads to a goal in fewer pieces than the link to
  it has segments, and one leads there in as many.
-/
theorem relativeLink_shortest
    (hStart : normalize start = start)
    (hGoal : normalize goal = goal)
    (hNil : goal ≠ [])
    (hApart : ¬ goal ++ ['/'] <+: start) :
    let link := relativeLink start goal none
    (∀ target, IsRelative target →
      resolve start target = goal →
        (segments link).length ≤ (pieces target).length) ∧
    ∃ target, IsRelative target ∧ resolve start target = goal ∧
      (pieces target).length = (segments link).length := by
  intro link
  have hDirectory : ¬ names goal <+: directory start :=
    fun hPrefix => hApart
      (isPrefix_of_names hStart hGoal hNil hPrefix)
  refine ⟨fun target hRelative hResolve => ?_,
    exists_target_of_normal hStart hGoal hNil⟩
  have hWalk :=
    distance_foldl_step_le (pieces target)
      (directory start).reverse
  rw [foldl_step_of_resolve hStart hRelative hResolve,
    List.reverse_reverse] at hWalk
  rw [length_segments_relativeLink hGoal hNil hDirectory]
  exact hWalk

end Links

theorem relativeLink_shortest_of_detour :
    let start : Text := "My Docs/Api/v1/A.md".toList
    let goal : Text := "My Docs/Api.d/B c.md".toList
    let detour : Text := ".\\..\\../..//My Docs/Api.d/B c.md".toList
    let link := relativeLink start goal none
    normalize start = start ∧ normalize goal = goal ∧
      goal ≠ [] ∧ ¬ goal ++ ['/'] <+: start ∧
      IsRelative detour ∧ resolve start detour = goal ∧
      link = "../../Api.d/B%20c.md".toList ∧
      (segments link).length ≤ (pieces detour).length := by
  intro start goal detour link
  have hStart : normalize start = start := by decide +kernel
  have hGoal : normalize goal = goal := by decide +kernel
  have hNil : goal ≠ [] := by decide
  have hApart : ¬ goal ++ ['/'] <+: start := by decide +kernel
  have hRelative : IsRelative detour := by decide
  have hResolve : resolve start detour = goal := by
    decide +kernel
  rcases relativeLink_shortest hStart hGoal hNil hApart with
    ⟨hLeast, -⟩
  exact ⟨hStart, hGoal, hNil, hApart, hRelative, hResolve,
    by decide +kernel, hLeast detour hRelative hResolve⟩

/- A directory that the document is in is closer. -/
example :
    let start : Text := "A/B/C.md".toList
    resolve start "..".toList = "A".toList ∧
      relativeLink start "A".toList none = "../../A".toList := by
  decide +kernel

end DocPath

end SourceDocs
