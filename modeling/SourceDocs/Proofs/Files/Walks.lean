import Mathlib.Data.List.Infix
import SourceDocs.Proofs.Files.Components
import SourceDocs.Proofs.Files.WalkOrder

/-
  What a walk leaves out.

  A walk meets the files that have all their folders
  entered, and these in the order of all files. A walk from
  a path enters a folder by its name and by the length of
  its path; as paths grow on the way down, the length of the
  last folder's path decides.

  Key definitions include:
    * `SourceDocs.Folder.isReached`
    * `SourceDocs.Folder.isMetFrom`
    * `SourceDocs.Folder.StartsWalk`

  Main results:
    * `SourceDocs.Folder.walk_eq_filter`
    * `SourceDocs.FilePath.below_eq_join`
    * `SourceDocs.Folder.StartsWalk.walkFrom_eq_filter`
    * `SourceDocs.Folder.StartsWalk.mem_walkFrom_iff`
-/

------------------------------------------------------------
-- Entered Folders
------------------------------------------------------------

namespace SourceDocs

namespace Folder

variable {enters : List Text → Bool}
variable {ns : List Text}

/- Whether all folders on the way to a file are entered. -/
def isReached
    (enters : List Text → Bool)
    (names : List Text) : Bool :=
  names.dropLast.inits.all fun ms => ms.isEmpty || enters ms

theorem isReached_iff :
    isReached enters ns = true ↔
      ∀ ms, ms <+: ns.dropLast → ms ≠ [] → enters ms = true := by
  unfold isReached
  rw [List.all_eq_true]
  simp only [List.mem_inits, Bool.or_eq_true,
    List.isEmpty_iff, or_iff_not_imp_left, ne_eq]

/- The first folder is entered, and then the others are. -/
theorem isReached_cons
    (n : Text)
    (hNil : ns ≠ []) :
    isReached enters (n :: ns) =
      (enters [n] && isReached (fun ms => enters (n :: ms)) ns) := by
  rw [Bool.eq_iff_iff, Bool.and_eq_true, isReached_iff,
    isReached_iff, List.dropLast_cons_of_ne_nil hNil]
  constructor
  · intro h
    constructor
    · apply h [n] _ (List.cons_ne_nil n [])
      exact List.cons_prefix_cons.mpr ⟨rfl, List.nil_prefix⟩
    · intro ms hUp _
      apply h (n :: ms) _ (List.cons_ne_nil n ms)
      exact List.cons_prefix_cons.mpr ⟨rfl, hUp⟩
  · rintro ⟨hFirst, hRest⟩ ms hUp hMs
    rcases List.prefix_cons_iff.mp hUp with rfl | ⟨ks, rfl, hKs⟩
    · exact absurd rfl hMs
    · by_cases hEmpty : ks = []
      · rw [hEmpty]
        exact hFirst
      · exact hRest ks hKs hEmpty

/- A walk meets the files whose folders it enters. -/
theorem walk_eq_filter
    (enters : List Text → Bool)
    (f : Folder) :
    f.walk enters =
      f.files.filter fun file => isReached enters file.1 := by
  induction f generalizing enters with
  | empty => rfl
  | file n content rest ih =>
      unfold walk
      rw [files_file, List.filter_cons_of_pos, ih]
      simp [isReached]
  | folder n inside rest ihInside ih =>
      have hCons :
          ∀ file ∈ inside.files,
            isReached enters (n :: file.1) =
              (enters [n] &&
                isReached (fun ms => enters (n :: ms)) file.1) := by
        intro file hFile
        exact isReached_cons n (ne_nil_of_mem_files hFile)
      have hInside :
          inside.files.filter
              (fun file => isReached enters (n :: file.1)) =
            if enters [n] then
              inside.walk fun ms => enters (n :: ms)
            else [] := by
        rw [List.filter_congr hCons, ihInside]
        cases enters [n] with
        | true => simp only [Bool.true_and, if_true]
        | false => simp
      -- What is inside comes first, then the entries behind.
      unfold walk
      rw [files_folder, List.filter_append, List.filter_map, ← ih]
      refine congrArg (· ++ rest.walk enters) ?_
      refine Eq.trans ?_ (congrArg (List.map _) hInside.symm)
      split <;> rfl

end Folder

------------------------------------------------------------
-- Paths On The Way
------------------------------------------------------------

namespace FilePath

theorem below_append
    (base : Text)
    (ms ns : List Text) :
    below base (ms ++ ns) = below (below base ms) ns :=
  List.foldl_append

/- Paths grow on the way down. -/
theorem byteLength_le_below
    (base : Text)
    {ns : List Text}
    (hNames : ∀ n ∈ ns, isAbsolute n = false) :
    Text.byteLength base ≤ Text.byteLength (below base ns) := by
  unfold below
  induction ns generalizing base with
  | nil => exact Nat.le_refl _
  | cons n ns ih =>
      rw [List.forall_mem_cons] at hNames
      apply Nat.le_trans (byteLength_le_join base hNames.1)
      exact ih _ hNames.2

theorem byteLength_below_dropLast_le
    (base : Text)
    {ns : List Text}
    (hNames : ∀ n ∈ ns, isAbsolute n = false) :
    Text.byteLength (below base ns.dropLast) ≤
      Text.byteLength (below base ns) := by
  rcases List.eq_nil_or_concat' ns with rfl | ⟨front, n, rfl⟩
  · exact Nat.le_refl _
  · rw [List.dropLast_concat, below_append]
    apply byteLength_le_below
    intro m hm
    exact hNames m (List.mem_append_right front hm)

/- A name is appended in front of a path. -/
theorem join_join
    (base : Text)
    {n path : Text}
    (hName : IsComponent n)
    (hPath : isAbsolute path = false) :
    join (join base n) path = join base (n ++ '/' :: path) := by
  have hLast : ∀ front : Text, (front ++ n).getLast? ≠ some '/' := by
    intro front hEnd
    rw [List.getLast?_append_of_ne_nil front hName.ne_nil] at hEnd
    exact hName.slash (List.mem_of_getLast? hEnd)
  have hFirst : ∀ t : Text, isAbsolute (n ++ t) = false := by
    intro t
    apply isAbsolute_eq_false_of_head?
    exact Text.head?_append_ne hName.ne_nil hName.slash t
  have hJoin :
      ∀ front : Text,
        join (front ++ n) path = front ++ (n ++ '/' :: path) := by
    intro front
    have hNil : front ++ n ≠ [] := by
      simp [hName.ne_nil]
    unfold join
    rw [if_neg (by simp [hPath]), if_neg hNil,
      if_neg (hLast front), List.append_assoc]
  have hRelative : isAbsolute n = false := by
    simpa using hFirst []
  -- A slash is put in only behind a base that has none.
  by_cases hNil : base = []
  · simpa [join, hNil, hRelative, hFirst] using hJoin []
  · by_cases hSlash : base.getLast? = some '/'
    · simpa [join, hNil, hSlash, hRelative, hFirst] using
        hJoin base
    · simpa [join, hNil, hSlash, hRelative, hFirst] using
        hJoin (base ++ ['/'])

/- Names are appended as their path is. -/
theorem below_eq_join
    (base : Text)
    {ns : List Text}
    (hNames : ∀ n ∈ ns, IsComponent n)
    (hNil : ns ≠ []) :
    below base ns = join base (ofComponents ns) := by
  induction ns generalizing base with
  | nil => exact absurd rfl hNil
  | cons n ns ih =>
      rw [List.forall_mem_cons] at hNames
      cases ns with
      | nil =>
          rw [ofComponents_eq, DocPath.ofSegments_singleton]
          rfl
      | cons m ms =>
          have hRest :=
            isAbsolute_ofComponents_of_forall hNames.2
          calc
            below base (n :: m :: ms) =
                below (join base n) (m :: ms) := rfl
            _ = join (join base n) (ofComponents (m :: ms)) :=
              ih _ hNames.2 (List.cons_ne_nil m ms)
            _ = join base (n ++ '/' :: ofComponents (m :: ms)) :=
              join_join base hNames.1 hRest
            _ = join base (ofComponents (n :: m :: ms)) := by
              rw [ofComponents_eq, ofComponents_eq,
                DocPath.ofSegments_cons_cons]

end FilePath

------------------------------------------------------------
-- Walks From A Path
------------------------------------------------------------

namespace Folder

variable {path : Text}
variable {skip : Text → Bool}

/-
  Whether a walk from a path meets what names lead to: no
  folder on the way is skipped, and the last can be opened.
-/
def isMetFrom
    (path : Text)
    (skip : Text → Bool)
    (names : List Text) : Bool :=
  !names.dropLast.any skip &&
    decide
      (Text.byteLength (FilePath.below path names.dropLast) ≤
        pathLimit)

theorem any_none (ns : List Text) :
    (ns.any fun _ => false) = false :=
  List.any_eq_false.mpr fun _ _ => Bool.false_ne_true

/- The last folder decides, as it has the longest path. -/
theorem isReached_eq_isMetFrom
    {ns : List Text}
    (hPath : Text.byteLength path ≤ pathLimit)
    (hNames : ∀ n ∈ ns, FilePath.isAbsolute n = false) :
    isReached (opens path skip) ns = isMetFrom path skip ns := by
  have hFolders :
      ∀ n ∈ ns.dropLast, FilePath.isAbsolute n = false := by
    intro n hn
    exact hNames n (List.mem_of_mem_dropLast hn)
  unfold isMetFrom opens
  rw [Bool.eq_iff_iff, isReached_iff]
  simp only [Bool.and_eq_true, Bool.not_eq_true',
    decide_eq_true_eq, List.any_eq_false]
  constructor
  · intro h
    constructor
    · -- A folder is the last of those that lead to it.
      intro n hn
      rcases List.append_of_mem hn with ⟨ms, ks, hEq⟩
      have hUp : ms ++ [n] <+: ns.dropLast := by
        rw [hEq]
        exact ⟨ks, by simp⟩
      have hLast := (h (ms ++ [n]) hUp (by simp)).1
      simpa using hLast
    · by_cases hNil : ns.dropLast = []
      · rw [hNil]
        exact hPath
      · exact (h _ (List.prefix_refl _) hNil).2
  · rintro ⟨hSkip, hShort⟩ ms ⟨ks, hEq⟩ hNil
    rw [← hEq] at hSkip hShort hFolders
    constructor
    · rcases List.eq_nil_or_concat' ms with rfl | ⟨front, n, rfl⟩
      · exact absurd rfl hNil
      · simpa using hSkip n (by simp)
    · rw [FilePath.below_append] at hShort
      apply Nat.le_trans _ hShort
      apply FilePath.byteLength_le_below
      intro n hn
      exact hFolders n (List.mem_append_right ms hn)

/- A walk gets at a file with a path that can be opened. -/
theorem isReached_of_byteLength_le
    {ns : List Text}
    (hNames : ∀ n ∈ ns, FilePath.isAbsolute n = false)
    (hShort :
      Text.byteLength (FilePath.below path ns) ≤ pathLimit) :
    isReached (opens path fun _ => false) ns = true := by
  have hPath :=
    Nat.le_trans (FilePath.byteLength_le_below path hNames) hShort
  have hFolder :=
    Nat.le_trans
      (FilePath.byteLength_below_dropLast_le path hNames) hShort
  rw [isReached_eq_isMetFrom hPath hNames]
  unfold isMetFrom
  rw [any_none, decide_eq_true hFolder]
  rfl

/- A tree whose files a walk from a path can get at. -/
structure StartsWalk
    (path : Text)
    (tree : Folder) : Prop where
  sorted : tree.Sorted
  short : Text.byteLength path ≤ pathLimit
  relative :
    ∀ file ∈ tree.files,
      ∀ n ∈ file.1, FilePath.isAbsolute n = false

namespace StartsWalk

variable {tree : Folder}

/- A walk from a path meets the files that it can get at. -/
theorem walkFrom_eq_filter
    (hStart : tree.StartsWalk path)
    (skip : Text → Bool) :
    tree.walkFrom path skip =
      tree.files.filter fun file => isMetFrom path skip file.1 := by
  unfold walkFrom
  rw [walk_eq_filter]
  apply List.filter_congr
  intro file hFile
  apply isReached_eq_isMetFrom hStart.short
  exact hStart.relative file hFile

/- Folders that are skipped take away what is below them. -/
theorem walkFrom_skip
    (hStart : tree.StartsWalk path)
    (skip : Text → Bool) :
    tree.walkFrom path skip =
      (tree.walkFrom path fun _ => false).filter
        fun file => !file.1.dropLast.any skip := by
  rw [hStart.walkFrom_eq_filter, hStart.walkFrom_eq_filter,
    List.filter_filter]
  apply List.filter_congr
  intro file _
  simp [isMetFrom, any_none]

theorem pairwise_walkFrom
    (hStart : tree.StartsWalk path)
    (skip : Text → Bool) :
    (tree.walkFrom path skip).Pairwise
      fun a b => a.1 < b.1 := by
  rw [hStart.walkFrom_eq_filter]
  exact (pairwise_files hStart.sorted).sublist
    List.filter_sublist

/- Without skipping a walk meets all that can be opened. -/
theorem mem_walkFrom_iff
    (hStart : tree.StartsWalk path)
    {ns : List Text}
    {content : Content} :
    (ns, content) ∈ (tree.walkFrom path fun _ => false) ↔
      tree.get? ns = some (.file content) ∧
        Text.byteLength (FilePath.below path ns.dropLast) ≤
          pathLimit := by
  rw [hStart.walkFrom_eq_filter, List.mem_filter,
    mem_files_iff hStart.sorted]
  simp [isMetFrom]

theorem ne_nil_of_mem_walkFrom
    (hStart : tree.StartsWalk path)
    {file : List Text × Content}
    (hFile : file ∈ tree.walkFrom path skip) :
    file.1 ≠ [] := by
  rw [hStart.walkFrom_eq_filter] at hFile
  exact ne_nil_of_mem_files (List.mem_of_mem_filter hFile)

end StartsWalk

end Folder

end SourceDocs
