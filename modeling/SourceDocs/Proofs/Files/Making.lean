import SourceDocs.Proofs.Files.Components
import SourceDocs.Proofs.Files.Entering

/-
  Making the folders of a path.

  Segments that pass through folders only can be followed
  wherever these folders are still there. Making folders
  changes no file and takes no folder away, so afterwards
  the way that was made can be followed.

  Key definitions include:
    * `SourceDocs.Folder.Enters`
    * `SourceDocs.Folder.Extends`

  Main results:
    * `SourceDocs.Folder.follow_append`
    * `SourceDocs.Folder.enters_of_follow`
    * `SourceDocs.Folder.extends_makeBelow`
    * `SourceDocs.Folder.exists_enters_makeBelow`
    * `SourceDocs.Folder.fault_makeBelow_names`
-/

------------------------------------------------------------
-- Ways Through Folders
------------------------------------------------------------

namespace SourceDocs

namespace Folder

/- Whether names lead to a folder. -/
def HasFolder (root : Folder) (ns : List Text) : Prop :=
  ∃ g, root.get? ns = some (.folder g)

/-
  Segments lead from the names of a trail to those of
  another, each of them into a folder, to one above or
  nowhere else. Both trails have the nearest name first.
-/
inductive Enters
    (root : Folder) :
    List Text → List Text → List Text → Prop
  | here (trail : List Text) : Enters root trail [] trail
  | stay
      {trail ss trail' : List Text}
      {s : Text}
      (hStay : s = [] ∨ s = ['.'])
      (hRest : Enters root trail ss trail') :
      Enters root trail (s :: ss) trail'
  | up
      {trail ss trail' : List Text}
      {s : Text}
      (hRest : Enters root trail ss trail') :
      Enters root (s :: trail) (['.', '.'] :: ss) trail'
  | into
      {trail ss trail' : List Text}
      {s : Text}
      (hName : s ≠ [] ∧ s ≠ ['.'] ∧ s ≠ ['.', '.'])
      (hShort : Text.byteLength s ≤ nameLimit)
      (hFolder : root.HasFolder (s :: trail).reverse)
      (hRest : Enters root (s :: trail) ss trail') :
      Enters root trail (s :: ss) trail'

variable {root : Folder}
variable {trail trail' ss : List Text}

/- Following goes on where such segments lead. -/
theorem follow_append
    (h : root.Enters trail ss trail')
    (rest : List Text) :
    root.follow trail (ss ++ rest) = root.follow trail' rest := by
  induction h with
  | here => rfl
  | stay hStay _ ih =>
      rw [List.cons_append, follow.eq_def]
      dsimp only
      rw [if_pos hStay, ih]
  | up _ ih =>
      rw [List.cons_append, follow.eq_def]
      simpa using ih
  | into hName hShort hFolder _ ih =>
      rcases hFolder with ⟨g, hg⟩
      rw [List.cons_append, follow.eq_def]
      dsimp only
      rw [if_neg (by simp [hName]), if_neg hName.2.2,
        if_neg (Nat.not_lt.mpr hShort), hg]
      exact ih

/- What is followed to a folder passes through folders only. -/
theorem enters_of_follow
    {names : List Text}
    (h : root.follow trail ss = .ok names)
    (hFolder : root.HasFolder names) :
    root.Enters trail ss names.reverse := by
  induction ss generalizing trail with
  | nil =>
      cases h
      rw [List.reverse_reverse]
      exact Enters.here trail
  | cons s ss ih =>
      rw [follow.eq_def] at h
      dsimp only at h
      by_cases hStay : s = [] ∨ s = ['.']
      · rw [if_pos hStay] at h
        exact Enters.stay hStay (ih h)
      rw [if_neg hStay] at h
      by_cases hUp : s = ['.', '.']
      · rw [if_pos hUp] at h
        subst hUp
        cases trail with
        | nil => cases h
        | cons n up => exact Enters.up (ih h)
      rw [if_neg hUp] at h
      by_cases hLong : Text.byteLength s > nameLimit
      · rw [if_pos hLong] at h
        cases h
      rw [if_neg hLong] at h
      rw [not_or] at hStay
      split at h
      · cases h
      · next g hg =>
          exact Enters.into ⟨hStay.1, hStay.2, hUp⟩
            (Nat.not_lt.mp hLong) ⟨g, hg⟩ (ih h)
      · next content hFile =>
          split_ifs at h
          cases h
          rcases hFolder with ⟨g, hg⟩
          rw [hFile] at hg
          cases hg

namespace Enters

/- Such segments are steps of a walk. -/
theorem eq_foldl
    (h : root.Enters trail ss trail') :
    trail' = ss.foldl DocPath.step trail := by
  induction h with
  | here => rfl
  | stay hStay _ ih =>
      rw [List.foldl_cons, DocPath.step, if_pos hStay, ih]
  | up _ ih =>
      rw [List.foldl_cons, DocPath.step_up, ih, List.tail_cons]
  | into hName _ _ _ ih =>
      rw [List.foldl_cons, DocPath.step,
        if_neg (by simp [hName]), if_neg hName.2.2, ih]

/- They lead into a folder from within one. -/
theorem hasFolder
    (h : root.Enters trail ss trail')
    (hTrail : root.HasFolder trail.reverse) :
    root.HasFolder trail'.reverse := by
  induction h with
  | here => exact hTrail
  | stay _ _ ih => exact ih hTrail
  | up _ ih =>
      apply ih
      rcases hTrail with ⟨g, hg⟩
      rw [List.reverse_cons] at hg
      exact exists_folder_of_get?_append (by simp) hg
  | into _ _ hFolder _ ih => exact ih hFolder

/- They lead as far where there are more folders. -/
theorem mono
    {new : Folder}
    (hMore : ∀ ns, root.HasFolder ns → new.HasFolder ns)
    (h : root.Enters trail ss trail') :
    new.Enters trail ss trail' := by
  induction h with
  | here => exact Enters.here _
  | stay hStay _ ih => exact Enters.stay hStay ih
  | up _ ih => exact Enters.up ih
  | into hName hShort hFolder _ ih =>
      exact Enters.into hName hShort (hMore _ hFolder) ih

/- Segments that name nothing make no difference. -/
theorem of_filter_counts
    (h : root.Enters trail (ss.filter FilePath.counts) trail') :
    root.Enters trail ss trail' := by
  induction ss generalizing trail with
  | nil => exact h
  | cons s ss ih =>
      rw [List.filter_cons] at h
      split_ifs at h with hCounts
      · cases h with
        | stay hStay hRest => exact stay hStay (ih hRest)
        | up hRest => exact up (ih hRest)
        | into hName hShort hFolder hRest =>
            exact into hName hShort hFolder (ih hRest)
      · refine stay ?_ (ih h)
        simpa [FilePath.counts, Classical.or_iff_not_imp_left]
          using hCounts

theorem filter_counts
    (h : root.Enters trail ss trail') :
    root.Enters trail (ss.filter FilePath.counts) trail' := by
  induction h with
  | here => exact here _
  | stay hStay _ ih =>
      rw [List.filter_cons_of_neg]
      · exact ih
      · rcases hStay with rfl | rfl <;> decide
  | up _ ih =>
      rw [List.filter_cons_of_pos (by decide)]
      exact up ih
  | into hName hShort hFolder _ ih =>
      rw [List.filter_cons_of_pos]
      · exact into hName hShort hFolder ih
      · simp [FilePath.counts, hName]

theorem append
    {trail'' ss' : List Text}
    (h : root.Enters trail ss trail')
    (h' : root.Enters trail' ss' trail'') :
    root.Enters trail (ss ++ ss') trail'' := by
  induction h with
  | here => exact h'
  | stay hStay _ ih => exact stay hStay (ih h')
  | up _ ih => exact up (ih h')
  | into hName hShort hFolder _ ih =>
      exact into hName hShort hFolder (ih h')

theorem components_iff
    {path : Text} :
    root.Enters trail (FilePath.components path) trail' ↔
      root.Enters trail (DocPath.segments path) trail' :=
  ⟨of_filter_counts, filter_counts⟩

/- The way through some segments is part of a longer one. -/
theorem exists_of_append
    {trail'' ss' : List Text}
    (h : root.Enters trail (ss ++ ss') trail'') :
    ∃ trail',
      root.Enters trail ss trail' ∧
        root.Enters trail' ss' trail'' := by
  induction ss generalizing trail with
  | nil => exact ⟨trail, here trail, h⟩
  | cons s ss ih =>
      rw [List.cons_append] at h
      cases h with
      | stay hStay hRest =>
          rcases ih hRest with ⟨trail', h, h'⟩
          exact ⟨trail', stay hStay h, h'⟩
      | up hRest =>
          rcases ih hRest with ⟨trail', h, h'⟩
          exact ⟨trail', up h, h'⟩
      | into hName hShort hFolder hRest =>
          rcases ih hRest with ⟨trail', h, h'⟩
          exact ⟨trail', into hName hShort hFolder h, h'⟩

end Enters

------------------------------------------------------------
-- More Folders
------------------------------------------------------------

/- The same files in folders of which there may be more. -/
structure Extends (old new : Folder) : Prop where
  sorted : old.Sorted → new.Sorted
  files :
    ∀ ns content,
      new.get? ns = some (.file content) ↔
        old.get? ns = some (.file content)
  folders : ∀ ns, old.HasFolder ns → new.HasFolder ns

namespace Extends

theorem refl (f : Folder) : Extends f f :=
  ⟨id, fun _ _ => Iff.rfl, fun _ => id⟩

theorem trans
    {f g h : Folder}
    (hf : Extends f g)
    (hg : Extends g h) : Extends f h :=
  ⟨fun hSorted => hg.sorted (hf.sorted hSorted),
   fun ns content =>
    (hg.files ns content).trans (hf.files ns content),
   fun ns hFolder => hg.folders ns (hf.folders ns hFolder)⟩

end Extends

/- What is on the way to a folder is no file. -/
theorem HasFolder.get?_ne_file
    {ns ms : List Text}
    (h : root.HasFolder ns)
    (hUp : ms <+: ns)
    (content : Content) :
    root.get? ms ≠ some (.file content) := by
  intro hFile
  rcases hUp with ⟨ks, rfl⟩
  rcases h with ⟨g, hg⟩
  by_cases hNil : ks = []
  · subst hNil
    rw [List.append_nil, hFile] at hg
    cases hg
  · rcases exists_folder_of_get?_append hNil hg with ⟨g', hg'⟩
    rw [hFile] at hg'
    cases hg'

theorem HasFolder.isPassable
    {ns : List Text}
    (h : root.HasFolder ns)
    (n : Text) : root.IsPassable (ns ++ [n]) := by
  intro ms hPrefix hNe
  rcases List.prefix_concat_iff.mp hPrefix with hEq | hUp
  · exact absurd hEq hNe
  · exact h.get?_ne_file hUp

variable {s : Text}
variable {fresh : Bool}

/- One folder is made in another. -/
theorem extends_putAt_empty
    (hTrail : root.HasFolder trail.reverse)
    (hNone : root.get? (s :: trail).reverse = none) :
    Extends root
      (root.putAt (s :: trail).reverse (.folder empty)) := by
  rw [List.reverse_cons] at hNone ⊢
  have hWay := hTrail.isPassable s
  refine ⟨fun hSorted => ?_, fun ns content => ?_, fun ns h => ?_⟩
  · exact hSorted.putAt trivial hWay
  · exact get?_putAt_empty_iff hWay (by simp) hNone
  · rcases h with ⟨g, hg⟩
    refine exists_folder_get?_putAt_of_folder hWay (by simp)
      (fun inside => ?_) hg
    simp [hNone]

/- The folder that is made is there. -/
theorem hasFolder_putAt_empty
    (hTrail : root.HasFolder trail.reverse) :
    (root.putAt (s :: trail).reverse (.folder empty)).HasFolder
      (s :: trail).reverse := by
  rw [List.reverse_cons]
  refine ⟨empty, ?_⟩
  have hFound :=
    get?_putAt_append (.folder empty) (hTrail.isPassable s)
      (by simp) []
  rwa [List.append_nil] at hFound

------------------------------------------------------------
-- Making Folders
------------------------------------------------------------

/-
  What making the folders of one more component comes to:
  a way up or into a folder, made if it is missing, or the
  end of it.
-/
theorem makeBelow_cons_cases
    (root : Folder)
    (fresh : Bool)
    (trail : List Text)
    (s : Text)
    (ss : List Text) :
    (∃ fault,
      makeBelow root fresh trail (s :: ss) =
        .stopped root fault) ∨
    (∃ n up,
      trail = n :: up ∧ s = ['.', '.'] ∧
        makeBelow root fresh trail (s :: ss) =
          makeBelow root fresh up ss) ∨
    (s ≠ ['.', '.'] ∧ Text.byteLength s ≤ nameLimit ∧
      root.HasFolder (s :: trail).reverse ∧
      makeBelow root fresh trail (s :: ss) =
        makeBelow root fresh (s :: trail) ss) ∨
    (s ≠ ['.', '.'] ∧ Text.byteLength s ≤ nameLimit ∧
      root.get? (s :: trail).reverse = none ∧
      makeBelow root fresh trail (s :: ss) =
        makeBelow
          (root.putAt (s :: trail).reverse (.folder empty))
          true (s :: trail) ss) := by
  rw [makeBelow.eq_def]
  dsimp only
  by_cases hUp : s = ['.', '.']
  · rw [if_pos hUp]
    cases trail with
    | nil => exact Or.inl ⟨_, rfl⟩
    | cons n up => exact Or.inr (Or.inl ⟨n, up, rfl, hUp, rfl⟩)
  rw [if_neg hUp]
  by_cases hLong : Text.byteLength s > nameLimit
  · rw [if_pos hLong]
    exact Or.inl ⟨_, rfl⟩
  rw [if_neg hLong]
  have hShort := Nat.not_lt.mp hLong
  split
  · next g hg =>
      exact Or.inr (Or.inr (Or.inl ⟨hUp, hShort, ⟨g, hg⟩, rfl⟩))
  · exact Or.inl ⟨_, rfl⟩
  · next hNone =>
      exact Or.inr (Or.inr (Or.inr ⟨hUp, hShort, hNone, rfl⟩))

/- Making folders only adds some. -/
theorem extends_makeBelow
    (hTrail : root.HasFolder trail.reverse) :
    Extends root (makeBelow root fresh trail ss).folder := by
  induction ss generalizing root fresh trail with
  | nil => exact Extends.refl root
  | cons s ss ih =>
      rcases makeBelow_cons_cases root fresh trail s ss with
        ⟨fault, hMake⟩ | ⟨n, up, rfl, -, hMake⟩ |
        ⟨-, -, hFolder, hMake⟩ | ⟨-, -, hNone, hMake⟩
      · rw [hMake]
        exact Extends.refl root
      · rw [hMake]
        rcases hTrail with ⟨g, hg⟩
        rw [List.reverse_cons] at hg
        exact ih (exists_folder_of_get?_append (by simp) hg)
      · rw [hMake]
        exact ih hFolder
      · rw [hMake]
        exact (extends_putAt_empty hTrail hNone).trans
          (ih (hasFolder_putAt_empty hTrail))

/- The folders that were made can be entered. -/
theorem exists_enters_makeBelow
    (hTrail : root.HasFolder trail.reverse)
    (hCounts : ∀ s ∈ ss, FilePath.IsComponent s)
    (hDone : (makeBelow root fresh trail ss).fault = none) :
    ∃ trail',
      (makeBelow root fresh trail ss).folder.Enters
        trail ss trail' := by
  induction ss generalizing root fresh trail with
  | nil => exact ⟨trail, Enters.here trail⟩
  | cons s ss ih =>
      have hs := hCounts s List.mem_cons_self
      have hCounts' : ∀ t ∈ ss, FilePath.IsComponent t :=
        fun t ht => hCounts t (List.mem_cons_of_mem s ht)
      rcases makeBelow_cons_cases root fresh trail s ss with
        ⟨fault, hMake⟩ | ⟨n, up, rfl, rfl, hMake⟩ |
        ⟨hUp, hShort, hFolder, hMake⟩ |
        ⟨hUp, hShort, hNone, hMake⟩
      · rw [hMake] at hDone
        cases hDone
      · rw [hMake] at hDone ⊢
        rcases hTrail with ⟨g, hg⟩
        rw [List.reverse_cons] at hg
        rcases ih (exists_folder_of_get?_append (by simp) hg)
          hCounts' hDone with ⟨trail', hEnters⟩
        exact ⟨trail', Enters.up hEnters⟩
      · rw [hMake] at hDone ⊢
        rcases ih hFolder hCounts' hDone with ⟨trail', hEnters⟩
        exact ⟨trail', Enters.into ⟨hs.ne_nil, hs.ne_here, hUp⟩
          hShort ((extends_makeBelow hFolder).folders _ hFolder)
          hEnters⟩
      · rw [hMake] at hDone ⊢
        have hFolder := hasFolder_putAt_empty (s := s) hTrail
        rcases ih hFolder hCounts' hDone with ⟨trail', hEnters⟩
        exact ⟨trail', Enters.into ⟨hs.ne_nil, hs.ne_here, hUp⟩
          hShort ((extends_makeBelow hFolder).folders _ hFolder)
          hEnters⟩

/- Nothing is made where there is a way already. -/
theorem makeBelow_append
    (h : root.Enters trail ss trail')
    (hCounts : ∀ s ∈ ss, FilePath.IsComponent s)
    (rest : List Text) :
    makeBelow root fresh trail (ss ++ rest) =
      makeBelow root fresh trail' rest := by
  induction h with
  | here => rfl
  | stay hStay _ _ =>
      have hs := hCounts _ List.mem_cons_self
      rcases hStay with rfl | rfl
      · exact absurd rfl hs.ne_nil
      · exact absurd rfl hs.ne_here
  | up _ ih =>
      rw [List.cons_append, makeBelow.eq_def]
      dsimp only
      rw [if_pos rfl]
      exact ih fun t ht => hCounts t (List.mem_cons_of_mem _ ht)
  | into hName hShort hFolder _ ih =>
      rcases hFolder with ⟨g, hg⟩
      rw [List.cons_append, makeBelow.eq_def]
      dsimp only
      rw [if_neg hName.2.2, if_neg (Nat.not_lt.mpr hShort), hg]
      exact ih fun t ht => hCounts t (List.mem_cons_of_mem _ ht)

------------------------------------------------------------
-- Making Names
------------------------------------------------------------

variable {ns ms : List Text}

/- Names can be made where no file is in the way. -/
theorem fault_makeBelow_names
    (hTrail : root.HasFolder trail.reverse)
    (hNames : ∀ n ∈ ns, IsEntryName n)
    (hWay :
      ∀ ms, ms <+: ns → ∀ content,
        root.get? (trail.reverse ++ ms) ≠ some (.file content)) :
    (makeBelow root fresh trail ns).fault = none := by
  induction ns generalizing root fresh trail with
  | nil => rfl
  | cons n ns ih =>
      have hn := hNames n List.mem_cons_self
      have hNames' : ∀ m ∈ ns, IsEntryName m :=
        fun m hm => hNames m (List.mem_cons_of_mem n hm)
      have hWay' :
          ∀ ms, ms <+: ns → ∀ content,
            root.get? ((n :: trail).reverse ++ ms) ≠
              some (.file content) := by
        intro ms hPrefix content
        have h := hWay (n :: ms)
          (List.cons_prefix_cons.mpr ⟨rfl, hPrefix⟩) content
        simpa using h
      rw [makeBelow.eq_def]
      dsimp only
      rw [if_neg hn.ne_up, if_neg (Nat.not_lt.mpr hn.short)]
      split
      · next g hg => exact ih ⟨g, hg⟩ hNames' hWay'
      · next content hFile =>
          refine absurd hFile ?_
          simpa using hWay' [] List.nil_prefix content
      · next hNone =>
          refine ih (hasFolder_putAt_empty hTrail) hNames' ?_
          intro ms hPrefix content
          rw [ne_eq, (extends_putAt_empty hTrail hNone).files]
          exact hWay' ms hPrefix content

/- Entering something makes folders on the way to it only. -/
theorem hasFolder_of_putAt
    {entry : Entry}
    (hWay : root.IsPassable ns)
    (hNil : ns ≠ [])
    (hBare : ∀ k ks, entry.get? (k :: ks) = none)
    (h : (root.putAt ns entry).HasFolder ms) :
    root.HasFolder ms ∨ ms <+: ns := by
  rcases h with ⟨g, hg⟩
  by_cases hUp : ms <+: ns
  · exact Or.inr hUp
  · left
    by_cases hDown : ns <+: ms
    · rcases hDown with ⟨ks, rfl⟩
      rw [get?_putAt_append _ hWay hNil] at hg
      cases ks with
      | nil => exact absurd (by simp) hUp
      | cons k ks =>
          rw [hBare] at hg
          cases hg
    · rw [get?_putAt_of_apart hWay hNil hDown hUp] at hg
      exact ⟨g, hg⟩

/- So does making names. -/
theorem hasFolder_of_makeBelow_names
    (hTrail : root.HasFolder trail.reverse)
    (hNames : ∀ n ∈ ns, IsEntryName n)
    (h : (makeBelow root fresh trail ns).folder.HasFolder ms) :
    root.HasFolder ms ∨ ms <+: trail.reverse ++ ns := by
  induction ns generalizing root fresh trail with
  | nil => exact Or.inl h
  | cons n ns ih =>
      have hn := hNames n List.mem_cons_self
      have hNames' : ∀ m ∈ ns, IsEntryName m :=
        fun m hm => hNames m (List.mem_cons_of_mem n hm)
      have hEq :
          trail.reverse ++ n :: ns = (n :: trail).reverse ++ ns := by
        simp
      rw [hEq]
      rcases makeBelow_cons_cases root fresh trail n ns with
        ⟨fault, hMake⟩ | ⟨-, -, -, hUp, -⟩ |
        ⟨-, -, hFolder, hMake⟩ | ⟨-, -, hNone, hMake⟩
      · rw [hMake] at h
        exact Or.inl h
      · exact absurd hUp hn.ne_up
      · rw [hMake] at h
        exact ih hFolder hNames' h
      · rw [hMake] at h
        rcases ih (hasFolder_putAt_empty hTrail) hNames' h with
          h | h
        · rw [List.reverse_cons] at h ⊢
          refine (hasFolder_of_putAt (hTrail.isPassable n)
            (by simp) (fun _ _ => rfl) h).imp_right ?_
          exact fun hPrefix =>
            hPrefix.trans (List.prefix_append _ ns)
        · exact Or.inr h

end Folder

end SourceDocs
