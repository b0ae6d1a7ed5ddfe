import Mathlib.Data.Char
import Mathlib.Data.List.Lex
import SourceDocs.Proofs.Files.Folders

/-
  Entering something into a folder.

  An entry is put at its place in the order, and what other
  names lead to stays. Entering a file deep inside changes
  the file at its names and no other, provided no file is in
  the way and no folder is in the place.

  Key definitions include:
    * `SourceDocs.Entry.Sorted`
    * `SourceDocs.Folder.IsPassable`

  Main results:
    * `SourceDocs.Folder.Sorted.putAt`
    * `SourceDocs.Folder.get?_putAt_append`
    * `SourceDocs.Folder.get?_putAt_file_iff`
    * `SourceDocs.Folder.get?_putAt_empty_iff`
-/

------------------------------------------------------------
-- One Entry
------------------------------------------------------------

namespace SourceDocs

/- A folder that is entered lists its entries in order. -/
def Entry.Sorted : Entry → Prop
| .file _ => True
| .folder inside => inside.Sorted

namespace Folder

variable {n m : Text}
variable {entry : Entry}

@[simp] theorem find?_before_self
    (rest : Folder) :
    (entry.before n rest).find? n = some entry := by
  cases entry <;> simp [Entry.before, find?]

theorem find?_before_of_ne
    (hNe : m ≠ n)
    (rest : Folder) :
    (entry.before n rest).find? m = rest.find? m := by
  cases entry <;> simp [Entry.before, find?, hNe]

/- What is put is found. -/
@[simp] theorem find?_put_self
    (f : Folder) : (f.put n entry).find? n = some entry := by
  induction f with
  | empty => exact find?_before_self .empty
  | file m content rest ih =>
      unfold put
      split_ifs with hSame hFirst
      · exact find?_before_self rest
      · exact find?_before_self _
      · rw [find?, if_neg hSame, ih]
  | folder m inside rest _ ih =>
      unfold put
      split_ifs with hSame hFirst
      · exact find?_before_self rest
      · exact find?_before_self _
      · rw [find?, if_neg hSame, ih]

/- Other names stand for what they stood for. -/
theorem find?_put_of_ne
    (hNe : m ≠ n)
    (f : Folder) : (f.put n entry).find? m = f.find? m := by
  induction f with
  | empty => exact find?_before_of_ne hNe .empty
  | file k content rest ih =>
      unfold put
      split_ifs with hSame hFirst
      · subst hSame
        rw [find?_before_of_ne hNe, find?, if_neg hNe]
      · exact find?_before_of_ne hNe _
      · rw [find?, find?, ih]
  | folder k inside rest _ ih =>
      unfold put
      split_ifs with hSame hFirst
      · subst hSame
        rw [find?_before_of_ne hNe, find?, if_neg hNe]
      · exact find?_before_of_ne hNe _
      · rw [find?, find?, ih]

theorem names_before
    (rest : Folder) :
    (entry.before n rest).names = n :: rest.names := by
  cases entry <;> rfl

/- Putting an entry adds its name at most. -/
theorem mem_names_put
    {f : Folder}
    (h : m ∈ (f.put n entry).names) :
    m = n ∨ m ∈ f.names := by
  induction f with
  | empty =>
      rw [put, names_before] at h
      exact List.mem_cons.mp h
  | file k content rest ih =>
      unfold put at h
      split_ifs at h
      · rw [names_before] at h
        rcases List.mem_cons.mp h with h | h
        · exact Or.inl h
        · exact Or.inr (List.mem_cons_of_mem k h)
      · rw [names_before] at h
        exact List.mem_cons.mp h
      · rcases List.mem_cons.mp h with h | h
        · exact Or.inr (List.mem_cons.mpr (Or.inl h))
        · exact (ih h).imp_right (List.mem_cons_of_mem k)
  | folder k inside rest _ ih =>
      unfold put at h
      split_ifs at h
      · rw [names_before] at h
        rcases List.mem_cons.mp h with h | h
        · exact Or.inl h
        · exact Or.inr (List.mem_cons_of_mem k h)
      · rw [names_before] at h
        exact List.mem_cons.mp h
      · rcases List.mem_cons.mp h with h | h
        · exact Or.inr (List.mem_cons.mpr (Or.inl h))
        · exact (ih h).imp_right (List.mem_cons_of_mem k)

/- An entry goes in front of names that come later. -/
theorem sorted_before
    {rest : Folder}
    (hEntry : entry.Sorted)
    (hFirst : ∀ m ∈ rest.names, n < m)
    (hRest : rest.Sorted) : (entry.before n rest).Sorted := by
  cases entry with
  | file content => exact ⟨hFirst, hRest⟩
  | folder inside => exact ⟨hFirst, hEntry, hRest⟩

/- A name behind the first goes behind it. -/
theorem lt_of_mem_names_put
    {k : Text}
    {rest : Folder}
    (hFirst : ∀ m ∈ rest.names, k < m)
    (hNe : n ≠ k)
    (hLess : ¬ n < k) :
    ∀ m ∈ (rest.put n entry).names, k < m := by
  intro m hm
  rcases mem_names_put hm with rfl | hm
  · exact lt_of_le_of_ne (not_lt.mp hLess) hNe.symm
  · exact hFirst m hm

/- All names come behind one that comes before the first. -/
theorem lt_of_mem_names_of_lt
    {k : Text}
    {rest : Folder}
    (hFirst : ∀ m ∈ rest.names, k < m)
    (hLess : n < k) : ∀ m ∈ k :: rest.names, n < m := by
  intro m hm
  rcases List.mem_cons.mp hm with rfl | hm
  · exact hLess
  · exact lt_trans hLess (hFirst m hm)

/- Putting an entry keeps the order. -/
theorem Sorted.put
    {f : Folder}
    (hSorted : f.Sorted)
    (hEntry : entry.Sorted) : (f.put n entry).Sorted := by
  induction f with
  | empty =>
      exact sorted_before hEntry (fun m hm => by cases hm) trivial
  | file k content rest ih =>
      unfold Folder.put
      split_ifs with hSame hFirst
      · subst hSame
        exact sorted_before hEntry hSorted.1 hSorted.2
      · exact sorted_before hEntry
          (lt_of_mem_names_of_lt hSorted.1 hFirst) hSorted
      · exact ⟨lt_of_mem_names_put hSorted.1 hSame hFirst,
          ih hSorted.2⟩
  | folder k inside rest _ ih =>
      unfold Folder.put
      split_ifs with hSame hFirst
      · subst hSame
        exact sorted_before hEntry hSorted.1 hSorted.2.2
      · exact sorted_before hEntry
          (lt_of_mem_names_of_lt hSorted.1 hFirst) hSorted
      · exact ⟨lt_of_mem_names_put hSorted.1 hSame hFirst,
          hSorted.2.1, ih hSorted.2.2⟩

end Folder

------------------------------------------------------------
-- Entries Deep Inside
------------------------------------------------------------

/- What names lead to from an entry. -/
def Entry.get? : List Text → Entry → Option Entry
| ns, .folder inside => inside.get? ns
| [], .file content => some (.file content)
| _ :: _, .file _ => none

namespace Folder

variable {entry : Entry}
variable {f : Folder}
variable {ns ms : List Text}
variable {content : Content}

theorem get?_cons
    (f : Folder)
    (n : Text)
    (ns : List Text) :
    f.get? (n :: ns) = (f.find? n).bind (Entry.get? ns) := by
  rw [get?]
  cases f.find? n with
  | none => rfl
  | some found =>
      cases found with
      | file content => cases ns <;> rfl
      | folder inside => rfl

@[simp] theorem get?_empty_cons
    (n : Text)
    (ns : List Text) : empty.get? (n :: ns) = none := rfl

/- No file stands where names pass on their way. -/
def IsPassable (f : Folder) (ns : List Text) : Prop :=
  ∀ ms, ms <+: ns → ms ≠ ns →
    ∀ content, f.get? ms ≠ some (.file content)

/- The way into the folder of the first name. -/
theorem IsPassable.inside
    {n : Text}
    {inside : Folder}
    (hWay : f.IsPassable (n :: ns))
    (hFind : f.find? n = some (.folder inside)) :
    inside.IsPassable ns := by
  intro ms hPrefix hNe content hFile
  refine hWay (n :: ms) (List.cons_prefix_cons.mpr ⟨rfl, hPrefix⟩)
    (by simpa using hNe) content ?_
  rw [get?_cons, hFind]
  exact hFile

theorem isPassable_empty (ns : List Text) :
    empty.IsPassable ns := by
  intro ms _ _ content hFile
  cases ms <;> cases hFile

/-
  Entering deep inside is entering in the folder of the
  first name, which is made if it is missing.
-/
theorem exists_putAt_cons_cons
    {n n' : Text}
    (entry : Entry)
    (hWay : f.IsPassable (n :: n' :: ns)) :
    ∃ inside : Folder,
      f.putAt (n :: n' :: ns) entry =
        f.put n (.folder (inside.putAt (n' :: ns) entry)) ∧
      inside.IsPassable (n' :: ns) ∧
      (f.find? n = some (.folder inside) ∨
        f.find? n = none ∧ inside = empty) := by
  rw [putAt]
  swap
  · exact List.cons_ne_nil n' ns
  cases hFind : f.find? n with
  | none =>
      exact ⟨empty, rfl, isPassable_empty _, Or.inr ⟨rfl, rfl⟩⟩
  | some found =>
      cases found with
      | folder inside =>
          exact ⟨inside, rfl, hWay.inside hFind, Or.inl rfl⟩
      | file content =>
          refine absurd ?_
            (hWay [n] ⟨n' :: ns, rfl⟩ (by simp) content)
          rw [get?_cons, hFind]
          rfl

/- What is entered is found. -/
theorem get?_putAt_append
    (entry : Entry)
    (hWay : f.IsPassable ns)
    (hNil : ns ≠ [])
    (ks : List Text) :
    (f.putAt ns entry).get? (ns ++ ks) = entry.get? ks := by
  induction ns generalizing f with
  | nil => exact absurd rfl hNil
  | cons n ns ih =>
      cases ns with
      | nil =>
          rw [putAt, List.singleton_append, get?_cons,
            find?_put_self]
          rfl
      | cons n' ns =>
          rcases exists_putAt_cons_cons entry hWay with
            ⟨inside, hPut, hInside, -⟩
          rw [hPut, List.cons_append, get?_cons, find?_put_self]
          exact ih hInside (List.cons_ne_nil n' ns)

/- Names that do not lead there see what they saw. -/
theorem get?_putAt_of_apart
    (hWay : f.IsPassable ns)
    (hNil : ns ≠ [])
    (hNot : ¬ ns <+: ms)
    (hNotUp : ¬ ms <+: ns) :
    (f.putAt ns entry).get? ms = f.get? ms := by
  induction ns generalizing f ms with
  | nil => exact absurd rfl hNil
  | cons n ns ih =>
      cases ms with
      | nil => exact absurd List.nil_prefix hNotUp
      | cons m ms =>
          by_cases hSame : m = n
          · subst hSame
            rw [List.cons_prefix_cons] at hNot hNotUp
            cases ns with
            | nil => exact absurd ⟨rfl, List.nil_prefix⟩ hNot
            | cons n' ns =>
                rcases exists_putAt_cons_cons entry hWay
                  with ⟨inside, hPut, hInside, hFind⟩
                rw [hPut, get?_cons, find?_put_self, get?_cons]
                have hLater :=
                  ih hInside (List.cons_ne_nil n' ns)
                    (fun h => hNot ⟨rfl, h⟩)
                    (fun h => hNotUp ⟨rfl, h⟩)
                rcases hFind with hFind | ⟨hFind, rfl⟩
                · rw [hFind]
                  exact hLater
                · rw [hFind]
                  cases ms with
                  | nil =>
                      exact absurd ⟨rfl, List.nil_prefix⟩ hNotUp
                  | cons m ms => exact hLater
          · cases ns with
            | nil =>
                rw [putAt, get?_cons, get?_cons,
                  find?_put_of_ne hSame]
            | cons n' ns =>
                rcases exists_putAt_cons_cons entry hWay
                  with ⟨inside, hPut, -, -⟩
                rw [hPut, get?_cons, get?_cons,
                  find?_put_of_ne hSame]

/- Names on the way lead to folders. -/
theorem exists_folder_get?_putAt
    (entry : Entry)
    (hWay : f.IsPassable ns)
    (hUp : ms <+: ns)
    (hNe : ms ≠ ns) :
    ∃ g, (f.putAt ns entry).get? ms = some (.folder g) := by
  rcases hUp with ⟨ks, rfl⟩
  have hKs : ks ≠ [] := by
    rintro rfl
    simp at hNe
  have hFound := get?_putAt_append entry hWay (by simp [hKs]) []
  have hEntry : entry.get? [] = some entry := by
    cases entry <;> rfl
  rw [List.append_nil, hEntry] at hFound
  exact exists_folder_of_get?_append hKs hFound

theorem Sorted.putAt
    (hSorted : f.Sorted)
    (hEntry : entry.Sorted)
    (hWay : f.IsPassable ns) : (f.putAt ns entry).Sorted := by
  induction ns generalizing f with
  | nil => exact hSorted
  | cons n ns ih =>
      cases ns with
      | nil => exact hSorted.put hEntry
      | cons n' ns =>
          rcases exists_putAt_cons_cons entry hWay with
            ⟨inside, hPut, hInside, hFind⟩
          rw [hPut]
          refine hSorted.put (ih ?_ hInside)
          rcases hFind with hFind | ⟨-, rfl⟩
          · exact hSorted.find? hFind
          · trivial

------------------------------------------------------------
-- Files And Folders Afterwards
------------------------------------------------------------

/- Folders stay, if the place where something goes was free. -/
theorem exists_folder_get?_putAt_of_folder
    {g : Folder}
    (hWay : f.IsPassable ns)
    (hNil : ns ≠ [])
    (hFree : ∀ inside, f.get? ns ≠ some (.folder inside))
    (h : f.get? ms = some (.folder g)) :
    ∃ g', (f.putAt ns entry).get? ms = some (.folder g') := by
  have hNe : ms ≠ ns := by
    rintro rfl
    exact hFree g h
  by_cases hUp : ms <+: ns
  · exact exists_folder_get?_putAt entry hWay hUp hNe
  by_cases hDown : ns <+: ms
  · rcases hDown with ⟨ks, rfl⟩
    have hKs : ks ≠ [] := by
      rintro rfl
      simp at hNe
    rcases exists_folder_of_get?_append hKs h with ⟨inside, hIn⟩
    exact absurd hIn (hFree inside)
  · exact ⟨g, by rw [get?_putAt_of_apart hWay hNil hDown hUp, h]⟩

/- A file that is entered is the only one that changes. -/
theorem get?_putAt_file_iff
    {content' : Content}
    (hWay : f.IsPassable ns)
    (hNil : ns ≠ [])
    (hFree : ∀ inside, f.get? ns ≠ some (.folder inside)) :
    (f.putAt ns (.file content)).get? ms =
        some (.file content') ↔
      ms = ns ∧ content' = content ∨
        ms ≠ ns ∧ f.get? ms = some (.file content') := by
  by_cases hDown : ns <+: ms
  · rcases hDown with ⟨ks, rfl⟩
    rw [get?_putAt_append _ hWay hNil]
    cases ks with
    | nil => simp [Entry.get?, eq_comm]
    | cons k ks =>
        have hNone :
            f.get? (ns ++ k :: ks) ≠ some (.file content') := by
          intro hFile
          rcases exists_folder_of_get?_append (by simp) hFile with
            ⟨inside, hIn⟩
          exact hFree inside hIn
        simp [Entry.get?, hNone]
  · have hNe : ms ≠ ns := by
      rintro rfl
      exact hDown (List.prefix_refl ms)
    by_cases hUp : ms <+: ns
    · rcases exists_folder_get?_putAt (.file content) hWay
        hUp hNe with ⟨g, hg⟩
      simp [hg, hNe, hWay ms hUp hNe content']
    · rw [get?_putAt_of_apart hWay hNil hDown hUp]
      simp [hNe]

/- A folder that is made changes no file. -/
theorem get?_putAt_empty_iff
    (hWay : f.IsPassable ns)
    (hNil : ns ≠ [])
    (hNone : f.get? ns = none) :
    (f.putAt ns (.folder empty)).get? ms =
        some (.file content) ↔
      f.get? ms = some (.file content) := by
  by_cases hDown : ns <+: ms
  · rcases hDown with ⟨ks, rfl⟩
    rw [get?_putAt_append _ hWay hNil]
    cases ks with
    | nil => simp [Entry.get?, get?, hNone]
    | cons k ks =>
        have hNot :
            f.get? (ns ++ k :: ks) ≠ some (.file content) := by
          intro hFile
          rcases exists_folder_of_get?_append (by simp) hFile with
            ⟨inside, hIn⟩
          rw [hNone] at hIn
          cases hIn
        simp [Entry.get?, hNot]
  · by_cases hUp : ms <+: ns
    · have hNe : ms ≠ ns := by
        rintro rfl
        exact hDown (List.prefix_refl ms)
      rcases exists_folder_get?_putAt (.folder empty) hWay
        hUp hNe with ⟨g, hg⟩
      simp [hg, hWay ms hUp hNe content]
    · rw [get?_putAt_of_apart hWay hNil hDown hUp]

end Folder

end SourceDocs
