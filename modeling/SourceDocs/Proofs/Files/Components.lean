import SourceDocs.Proofs.Files.Following

/-
  Paths as lists of components.

  A path below a base has the components of the base and
  then those of its own, and is parted at its slashes into
  them. A path that is cut short gets no longer in octets.

  Key definitions include:
    * `SourceDocs.FilePath.IsComponent`
    * `SourceDocs.Folder.IsFilePath`

  Main results:
    * `SourceDocs.FilePath.components_ofComponents`
    * `SourceDocs.FilePath.components_join`
    * `SourceDocs.FilePath.parent?_join`
    * `SourceDocs.FilePath.byteLength_ofComponents_le`
-/

------------------------------------------------------------
-- Components
------------------------------------------------------------

namespace SourceDocs

namespace FilePath

/- A segment that names something, `..` included. -/
structure IsComponent (s : Text) : Prop where
  ne_nil : s ≠ []
  ne_here : s ≠ ['.']
  slash : '/' ∉ s

/- Whether a segment is left in when components are taken. -/
def counts (s : Text) : Bool :=
  decide (s ≠ []) && decide (s ≠ ['.'])

theorem components_eq (path : Text) :
    components path = (DocPath.segments path).filter counts := rfl

theorem counts_of_isComponent
    {s : Text}
    (hs : IsComponent s) : counts s = true := by
  simp [counts, hs.ne_nil, hs.ne_here]

theorem filter_counts_of_forall
    {cs : List Text}
    (hcs : ∀ s ∈ cs, IsComponent s) : cs.filter counts = cs :=
  List.filter_eq_self.mpr fun s hs =>
    counts_of_isComponent (hcs s hs)

theorem isComponent_of_mem_components
    {path s : Text}
    (hs : s ∈ components path) : IsComponent s := by
  rw [components_eq, List.mem_filter] at hs
  rcases hs with ⟨hSegment, hCounts⟩
  simp only [counts, Bool.and_eq_true, decide_eq_true_eq]
    at hCounts
  refine ⟨hCounts.1, hCounts.2, fun hSlash => ?_⟩
  exact (DocPath.mem_segments hSegment _ hSlash).1 rfl

theorem mem_of_mem_components
    {path s : Text}
    (hs : s ∈ components path)
    {c : Char}
    (hc : c ∈ s) : c ∈ path := by
  rw [components_eq] at hs
  exact (DocPath.mem_segments (List.mem_of_mem_filter hs) c hc).2

/- Components that are put together are found again. -/
theorem components_ofComponents
    {cs : List Text}
    (hcs : ∀ s ∈ cs, IsComponent s) :
    components (ofComponents cs) = cs := by
  by_cases hNil : cs = []
  · subst hNil
    rfl
  · have hSplit : DocPath.segments (ofComponents cs) = cs :=
      List.splitOn_intercalate '/' (fun s hs => (hcs s hs).slash)
        hNil
    rw [components_eq, hSplit, filter_counts_of_forall hcs]

theorem isAbsolute_eq_false_of_head?
    {path : Text}
    (h : path.head? ≠ some '/') : isAbsolute path = false := by
  unfold isAbsolute
  split
  · exact absurd rfl h
  · rfl

theorem IsComponent.isAbsolute
    {s : Text}
    (hs : IsComponent s) : FilePath.isAbsolute s = false := by
  apply isAbsolute_eq_false_of_head?
  intro hHead
  exact hs.slash (List.mem_of_head? hHead)

theorem head?_ne_of_isAbsolute_eq_false
    {path : Text}
    (h : isAbsolute path = false) : path.head? ≠ some '/' := by
  intro hHead
  rcases List.head?_eq_some_iff.mp hHead with ⟨rest, rfl⟩
  simp [isAbsolute] at h

/- Components are put together to a relative path. -/
theorem isAbsolute_ofComponents_of_forall
    {cs : List Text}
    (hcs : ∀ s ∈ cs, IsComponent s) :
    isAbsolute (ofComponents cs) = false := by
  apply isAbsolute_eq_false_of_head?
  rw [ofComponents_eq]
  cases cs with
  | nil => simp
  | cons s cs =>
      have hs := hcs s List.mem_cons_self
      rcases DocPath.exists_ofSegments_cons s cs with ⟨t, ht⟩
      rw [ht]
      exact Text.head?_append_ne hs.ne_nil hs.slash t

------------------------------------------------------------
-- Lengths
------------------------------------------------------------

/- Segments in front only make a path longer. -/
theorem byteLength_ofSegments_le_cons
    (s : Text)
    (ss : List Text) :
    Text.byteLength (DocPath.ofSegments ss) ≤
      Text.byteLength (DocPath.ofSegments (s :: ss)) := by
  cases ss with
  | nil => exact Nat.zero_le _
  | cons s' ss =>
      rw [DocPath.ofSegments_cons_cons, Text.byteLength_append,
        Text.byteLength_cons]
      omega

/- Leaving segments out makes a path no longer. -/
theorem byteLength_ofSegments_le
    {ss ss' : List Text}
    (h : ss.Sublist ss') :
    Text.byteLength (DocPath.ofSegments ss) ≤
      Text.byteLength (DocPath.ofSegments ss') := by
  induction h with
  | slnil => exact Nat.le_refl _
  | cons s _ ih =>
      exact Nat.le_trans ih (byteLength_ofSegments_le_cons s _)
  | @cons_cons ss ss' s hRest ih =>
      cases ss with
      | nil =>
          rcases DocPath.exists_ofSegments_cons s ss' with ⟨t, ht⟩
          rw [ht, DocPath.ofSegments_singleton,
            Text.byteLength_append]
          exact Nat.le_add_right _ _
      | cons r rs =>
          cases ss' with
          | nil => cases hRest
          | cons r' rs' =>
              rw [DocPath.ofSegments_cons_cons,
                DocPath.ofSegments_cons_cons,
                Text.byteLength_append, Text.byteLength_append,
                Text.byteLength_cons, Text.byteLength_cons]
              omega

theorem ofSegments_segments (path : Text) :
    DocPath.ofSegments (DocPath.segments path) = path :=
  List.intercalate_splitOn '/'

/- So does leaving components out. -/
theorem byteLength_ofComponents_le
    {path : Text}
    {cs : List Text}
    (h : cs.Sublist (components path)) :
    Text.byteLength (ofComponents cs) ≤ Text.byteLength path := by
  have hLength :
      Text.byteLength (DocPath.ofSegments cs) ≤
        Text.byteLength
          (DocPath.ofSegments (DocPath.segments path)) :=
    byteLength_ofSegments_le (h.trans List.filter_sublist)
  rwa [ofSegments_segments] at hLength

end FilePath

------------------------------------------------------------
-- Paths Below A Base
------------------------------------------------------------

namespace Folder

/- A path whose segments are names that files get. -/
def IsFilePath (path : Text) : Prop :=
  ∀ n ∈ DocPath.segments path, IsEntryName n

theorem IsEntryName.isComponent
    {n : Text}
    (hn : IsEntryName n) : FilePath.IsComponent n :=
  ⟨hn.ne_nil, hn.ne_here, hn.slash⟩

namespace IsFilePath

variable {path : Text}

/- So are the names of the folder that the file is in. -/
theorem dropLast
    (hPath : IsFilePath path) :
    ∀ n ∈ (DocPath.segments path).dropLast, IsEntryName n :=
  fun n hn => hPath n (List.dropLast_subset _ hn)

theorem components_eq
    (hPath : IsFilePath path) :
    FilePath.components path = DocPath.segments path := by
  rw [FilePath.components_eq]
  exact FilePath.filter_counts_of_forall fun n hn =>
    (hPath n hn).isComponent

theorem isAbsolute
    (hPath : IsFilePath path) :
    FilePath.isAbsolute path = false := by
  have h := isAbsolute_ofComponents hPath
  rwa [FilePath.ofComponents_eq, FilePath.ofSegments_segments]
    at h

theorem zero_not_mem
    (hPath : IsFilePath path) : Char.ofNat 0 ∉ path := by
  have h := zero_not_mem_ofComponents hPath
  rwa [FilePath.ofComponents_eq, FilePath.ofSegments_segments]
    at h

end IsFilePath

end Folder

namespace FilePath

open Folder (IsFilePath)

variable {base path : Text}

/- What a path below a base is parted into. -/
theorem exists_segments_join
    (base : Text)
    (hPath : isAbsolute path = false) :
    ∃ front,
      DocPath.segments (join base path) =
        front ++ DocPath.segments path ∧
      front.filter counts = components base := by
  rw [join, if_neg (by simp [hPath])]
  split_ifs with hNil hSlash
  · subst hNil
    exact ⟨[], rfl, rfl⟩
  · rcases List.getLast?_eq_some_iff.mp hSlash with ⟨b, rfl⟩
    refine ⟨DocPath.segments b, ?_, ?_⟩
    · rw [List.append_assoc, List.singleton_append]
      exact DocPath.segments_append_slash b path
    · rw [components_eq, DocPath.segments_append_slash,
        List.filter_append]
      exact (List.append_nil _).symm
  · exact ⟨DocPath.segments base,
      DocPath.segments_append_slash base path, rfl⟩

theorem components_join
    (base : Text)
    (hPath : isAbsolute path = false) :
    components (join base path) =
      components base ++ components path := by
  rcases exists_segments_join base hPath with
    ⟨front, hSegments, hFront⟩
  rw [components_eq, hSegments, List.filter_append, hFront]
  rfl

/- A path below a base starts with it. -/
theorem prefix_join
    (base : Text)
    (hPath : isAbsolute path = false) :
    base <+: join base path := by
  unfold join
  rw [if_neg (by simp [hPath])]
  split_ifs with hNil
  · rw [hNil]
    exact List.nil_prefix
  · exact List.prefix_append base path
  · exact List.prefix_append base ('/' :: path)

theorem byteLength_le_join
    (base : Text)
    (hPath : isAbsolute path = false) :
    Text.byteLength base ≤ Text.byteLength (join base path) := by
  rcases prefix_join base hPath with ⟨rest, hRest⟩
  rw [← hRest, Text.byteLength_append]
  exact Nat.le_add_right _ _

/- A path below a base is relative if the base is. -/
theorem isAbsolute_join
    (hBase : isAbsolute base = false)
    (hPath : isAbsolute path = false) :
    isAbsolute (join base path) = false := by
  rw [join, if_neg (by simp [hPath])]
  split_ifs with hNil
  · exact hPath
  all_goals
    rcases List.exists_cons_of_ne_nil hNil with ⟨c, b, rfl⟩
    apply isAbsolute_eq_false_of_head?
    simpa using head?_ne_of_isAbsolute_eq_false hBase

theorem isAbsolute_base_of_join
    (hJoin : isAbsolute (join base path) = false)
    (hPath : isAbsolute path = false) :
    isAbsolute base = false := by
  rw [join, if_neg (by simp [hPath])] at hJoin
  split_ifs at hJoin with hNil
  · subst hNil
    rfl
  all_goals
    rcases List.exists_cons_of_ne_nil hNil with ⟨c, b, rfl⟩
    apply isAbsolute_eq_false_of_head?
    simpa using head?_ne_of_isAbsolute_eq_false hJoin

/- The folder of a file below a base. -/
theorem parent?_join
    (hBase : isAbsolute base = false)
    (hPath : IsFilePath path) :
    parent? (join base path) =
      some (ofComponents
        (components base ++ (DocPath.segments path).dropLast)) := by
  have hSegments : DocPath.segments path ≠ [] :=
    List.splitOn_ne_nil '/' path
  have hNil : join base path ≠ [] := by
    intro hEmpty
    have hParts := components_join base hPath.isAbsolute
    rw [hEmpty, hPath.components_eq] at hParts
    exact hSegments (List.append_eq_nil_iff.mp hParts.symm).2
  rw [parent?, isAbsolute_join hBase hPath.isAbsolute]
  dsimp only
  rw [if_neg hNil, components_join base hPath.isAbsolute,
    hPath.components_eq, List.dropLast_append_of_ne_nil hSegments]

theorem isComponent_of_mem_parent
    (hPath : IsFilePath path)
    {s : Text}
    (hs : s ∈ components base ++ (DocPath.segments path).dropLast) :
    IsComponent s := by
  rcases List.mem_append.mp hs with hs | hs
  · exact isComponent_of_mem_components hs
  · exact (hPath.dropLast s hs).isComponent

end FilePath

end SourceDocs
