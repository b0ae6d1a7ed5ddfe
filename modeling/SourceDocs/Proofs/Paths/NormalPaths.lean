import SourceDocs.Proofs.Paths.Segments

/-
  Normal paths, and normalizing as a walk with a stack.

  A path is normal if it has no backslash and all of its
  segments are names, or if it is empty. Normalizing leaves
  such a path as it is and makes one of any other. It can be
  done piece by piece from the left, as the names walked so
  far are all that the walk goes on with.

  Key definitions include:
    * `SourceDocs.DocPath.IsNormal`
    * `SourceDocs.DocPath.StaysInside`

  Main results:
    * `SourceDocs.DocPath.isNormal_iff`
    * `SourceDocs.DocPath.normalize_append_slash`
    * `SourceDocs.DocPath.normalize_canonical`
-/

------------------------------------------------------------
-- Normal Paths
------------------------------------------------------------

namespace SourceDocs

namespace DocPath

/-
  A path with slashes only and without empty segments, `.`
  and `..`, unless it is empty as a whole.
-/
structure IsNormal (p : Text) : Prop where
  backslash : '\\' ∉ p
  segments :
    p = [] ∨
      ∀ s ∈ segments p,
        s ≠ [] ∧ s ≠ ['.'] ∧ s ≠ ['.', '.']

/- The segments of a normal path are names. -/
theorem IsNormal.isName
    {p s : Text}
    (hNormal : IsNormal p)
    (hNil : p ≠ [])
    (hs : s ∈ DocPath.segments p) : IsName s := by
  rcases hNormal.segments with hEmpty | hSegments
  · exact absurd hEmpty hNil
  · rcases hSegments s hs with ⟨hName, hHere, hUp⟩
    have hMem := mem_segments hs
    exact ⟨hName, hHere, hUp,
      fun hSlash => (hMem _ hSlash).1 rfl,
      fun hBack => hNormal.backslash (hMem _ hBack).2⟩

/- Names put together are a normal path. -/
theorem isNormal_ofSegments
    {ns : List Text}
    (hNames : ∀ s ∈ ns, IsName s) :
    IsNormal (ofSegments ns) := by
  refine ⟨not_mem_ofSegments hNames, ?_⟩
  by_cases hNil : ns = []
  · left
    rw [hNil, ofSegments_nil]
  · right
    rw [segments_ofSegments hNames hNil]
    intro s hs
    have hName := hNames s hs
    exact ⟨hName.ne_nil, hName.ne_here, hName.ne_up⟩

theorem isNormal_normalize (p : Text) :
    IsNormal (normalize p) :=
  isNormal_ofSegments (isName_of_mem_walk p)

/- A normal path stays as it is. -/
theorem IsNormal.normalize_eq
    {p : Text}
    (hNormal : IsNormal p) : normalize p = p := by
  by_cases hNil : p = []
  · subst hNil
    rfl
  · have hWalk :
        walk (DocPath.segments p) = DocPath.segments p := by
      rw [walk, foldl_step_names fun s hs => hNormal.isName hNil hs,
        List.append_nil, List.reverse_reverse]
    rw [DocPath.normalize_eq hNormal.backslash, hWalk]
    exact List.intercalate_splitOn '/'

theorem isNormal_iff {p : Text} :
    IsNormal p ↔ normalize p = p := by
  constructor
  · exact IsNormal.normalize_eq
  · intro hEq
    rw [← hEq]
    exact isNormal_normalize p

------------------------------------------------------------
-- Piece By Piece
------------------------------------------------------------

@[simp] theorem unify_append_slash (p q : Text) :
    unify (p ++ '/' :: q) = unify p ++ '/' :: unify q := by
  simp [unify, Text.replaceChar]

/- The names of a normalized path are those walked over. -/
theorem names_normalize (p : Text) :
    names (normalize p) = walk (segments (unify p)) :=
  names_ofSegments (isName_of_mem_walk p)

/-
  Behind a slash the walk goes on with the names before it
  on the stack.
-/
theorem normalize_append_slash (p q : Text) :
    normalize (p ++ '/' :: q) =
      ofSegments
        ((segments (unify q)).foldl step
          (names (normalize p)).reverse).reverse := by
  rw [normalize, unify_append_slash, segments_append_slash,
    walk, List.foldl_append, names_normalize, walk,
    List.reverse_reverse]

/- A step up leaves out the last name. -/
theorem normalize_append_up (p : Text) :
    normalize (p ++ "/..".toList) =
      ofSegments (names (normalize p)).dropLast := by
  change normalize (p ++ '/' :: ['.', '.']) = _
  rw [normalize_append_slash, unify_eq_self (by decide),
    segments_of_not_mem (by decide), List.foldl_cons, step_up,
    List.foldl_nil, List.tail_reverse, List.reverse_reverse]

------------------------------------------------------------
-- Inside Of The Root
------------------------------------------------------------

/-
  Whether no beginning of a path leads out of the place that
  it is read from, wherever that is.
-/
def StaysInside (p : Text) : Prop :=
  ∀ base front, front <+: segments p →
    walk base <+: walk (base ++ front)

theorem IsNormal.staysInside
    {p : Text}
    (hNormal : IsNormal p) : StaysInside p := by
  intro base front hFront
  rw [walk, walk, List.foldl_append]
  by_cases hNil : p = []
  · rw [hNil, segments_nil] at hFront
    have hStay : ∀ stack, front.foldl step stack = stack := by
      intro stack
      rcases List.prefix_cons_iff.mp hFront with rfl | ⟨t, rfl, ht⟩
      · rfl
      · rw [List.prefix_nil.mp ht, List.foldl_cons, step_nil,
          List.foldl_nil]
    exact ⟨[], by rw [hStay, List.append_nil]⟩
  · have hNames : ∀ s ∈ front, IsName s := fun s hs =>
      hNormal.isName hNil (hFront.subset hs)
    rw [foldl_step_names hNames, List.reverse_append,
      List.reverse_reverse]
    exact List.prefix_append _ _

/- Resolving a target always ends in normalizing a path. -/
theorem exists_resolve_eq_normalize (current target : Text) :
    ∃ p, resolve current target = normalize p := by
  rw [resolve]
  split
  · exact ⟨_, rfl⟩
  · dsimp only
    split_ifs
    · exact ⟨_, rfl⟩
    · exact ⟨_, rfl⟩

theorem isNormal_resolve (current target : Text) :
    IsNormal (resolve current target) := by
  rcases exists_resolve_eq_normalize current target with
    ⟨p, hEq⟩
  rw [hEq]
  exact isNormal_normalize p

/-
  Normalizing makes any path normal and leaves normal paths
  as they are; a front may be normalized before the rest is
  read; a step up leaves out the name before it. So whatever
  a target resolves to is normal, and no beginning of it
  leads out of the place where the corpus is.
-/
theorem normalize_canonical :
    (∀ p, IsNormal (normalize p)) ∧
    (∀ p, IsNormal p ↔ normalize p = p) ∧
    (∀ p, normalize (normalize p) = normalize p) ∧
    (∀ p q,
      normalize (p ++ '/' :: q) =
        normalize (normalize p ++ '/' :: q)) ∧
    (∀ p,
      normalize (p ++ "/..".toList) =
        ofSegments (names (normalize p)).dropLast) ∧
    ∀ current target,
      IsNormal (resolve current target) ∧
        StaysInside (resolve current target) := by
  have hTwice : ∀ p, normalize (normalize p) = normalize p :=
    fun p => (isNormal_normalize p).normalize_eq
  refine ⟨isNormal_normalize, fun p => isNormal_iff, hTwice,
    fun p q => ?_, normalize_append_up,
    fun current target => ?_⟩
  · rw [normalize_append_slash, normalize_append_slash, hTwice]
  · have hNormal := isNormal_resolve current target
    exact ⟨hNormal, hNormal.staysInside⟩

end DocPath

end SourceDocs
