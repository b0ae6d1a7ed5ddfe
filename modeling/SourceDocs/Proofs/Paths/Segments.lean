import Mathlib.Data.List.Basic
import SourceDocs.DocPath
import SourceDocs.Proofs.Text.Stretches

/-
  Normal paths as lists of names.

  A normal path is what its names come to when they are put
  together, and walking over names only collects them.

  Key definitions include:
    * `SourceDocs.DocPath.IsName`

  Main results:
    * `SourceDocs.DocPath.exists_names_of_normal`
    * `SourceDocs.DocPath.names_ofSegments`
    * `SourceDocs.DocPath.foldl_step_segments`
-/

------------------------------------------------------------
-- Segments
------------------------------------------------------------

namespace SourceDocs

namespace DocPath

/- Segments are made of the characters between slashes. -/
theorem mem_segments
    {p s : Text}
    (hs : s ∈ segments p) :
    ∀ c ∈ s, c ≠ '/' ∧ c ∈ p :=
  Text.of_mem_splitOn hs

theorem mem_of_mem_names
    {p s : Text}
    (hs : s ∈ names p)
    {c : Char}
    (hc : c ∈ s) : c ∈ p :=
  (mem_segments (List.mem_of_mem_filter hs) c hc).2

@[simp] theorem segments_nil : segments [] = [[]] := rfl

@[simp] theorem ofSegments_nil : ofSegments [] = [] := rfl

@[simp] theorem ofSegments_singleton (s : Text) :
    ofSegments [s] = s := by
  rw [ofSegments, Text.join, List.intercalate_singleton]

theorem ofSegments_cons_cons
    (s s' : Text)
    (ss : List Text) :
    ofSegments (s :: s' :: ss) =
      s ++ '/' :: ofSegments (s' :: ss) := by
  rw [ofSegments, Text.join, List.intercalate_cons_cons,
    List.append_assoc, List.singleton_append]
  rfl

/- Segments put together start with the first of them. -/
theorem exists_ofSegments_cons
    (s : Text)
    (ss : List Text) :
    ∃ t, ofSegments (s :: ss) = s ++ t := by
  cases ss with
  | nil => exact ⟨[], by rw [ofSegments_singleton, List.append_nil]⟩
  | cons s' ss => exact ⟨_, ofSegments_cons_cons s s' ss⟩

/- Segments in front part from those behind at a slash. -/
theorem segments_append_slash
    (p q : Text) :
    segments (p ++ '/' :: q) = segments p ++ segments q :=
  List.splitOn_append_cons_self p q

theorem segments_of_not_mem
    {s : Text}
    (hs : '/' ∉ s) : segments s = [s] :=
  List.splitOn_eq_singleton hs

/- The characters of segments put together. -/
theorem mem_ofSegments
    {ss : List Text}
    {c : Char}
    (hc : c ∈ ofSegments ss) : c = '/' ∨ ∃ s ∈ ss, c ∈ s := by
  rw [← List.mem_singleton]
  exact Text.mem_join hc

theorem mem_ofSegments_of_mem
    {ss : List Text}
    {s : Text}
    (hs : s ∈ ss)
    {c : Char}
    (hc : c ∈ s) : c ∈ ofSegments ss := by
  induction ss with
  | nil => cases hs
  | cons s' ss ih =>
      cases ss with
      | nil =>
          rw [List.mem_singleton.mp hs] at hc
          rwa [ofSegments_singleton]
      | cons s'' ss =>
          rw [ofSegments_cons_cons, List.mem_append, List.mem_cons]
          rcases List.mem_cons.mp hs with rfl | hs
          · exact Or.inl hc
          · exact Or.inr (Or.inr (ih hs))

------------------------------------------------------------
-- Names
------------------------------------------------------------

/- A segment that walking over a path takes for a name. -/
structure IsName (s : Text) : Prop where
  ne_nil : s ≠ []
  ne_here : s ≠ ['.']
  ne_up : s ≠ ['.', '.']
  slash : '/' ∉ s
  backslash : '\\' ∉ s

theorem step_name
    {s : Text}
    (hs : IsName s)
    (stack : List Text) : step stack s = s :: stack := by
  simp [step, hs.ne_nil, hs.ne_here, hs.ne_up]

@[simp] theorem step_nil (stack : List Text) :
    step stack [] = stack := by
  simp [step]

@[simp] theorem step_up (stack : List Text) :
    step stack ['.', '.'] = stack.tail := by
  simp [step]

/- Names are put on the stack. -/
theorem foldl_step_names
    {ns : List Text}
    (hNames : ∀ s ∈ ns, IsName s)
    (stack : List Text) :
    ns.foldl step stack = ns.reverse ++ stack := by
  induction ns generalizing stack with
  | nil => rfl
  | cons s ns ih =>
      rw [List.foldl_cons, step_name (hNames s List.mem_cons_self),
        ih fun t ht => hNames t (List.mem_cons_of_mem s ht),
        List.reverse_cons, List.append_assoc,
        List.singleton_append]

/- Steps up take names from the stack. -/
theorem foldl_step_ups
    (k : Nat)
    (stack : List Text) :
    (List.replicate k ['.', '.']).foldl step stack =
      stack.drop k := by
  induction k generalizing stack with
  | zero => rfl
  | succ k ih =>
      rw [List.replicate_succ, List.foldl_cons, step_up, ih,
        List.drop_tail]

/- Only names get onto the stack. -/
theorem isName_of_mem_foldl_step
    {ss stack : List Text}
    (hSegments : ∀ s ∈ ss, '/' ∉ s ∧ '\\' ∉ s)
    (hStack : ∀ s ∈ stack, IsName s) :
    ∀ s ∈ ss.foldl step stack, IsName s := by
  induction ss generalizing stack with
  | nil => exact hStack
  | cons s ss ih =>
      rw [List.foldl_cons]
      refine ih (fun t ht =>
        hSegments t (List.mem_cons_of_mem s ht)) ?_
      rcases hSegments s List.mem_cons_self with
        ⟨hSlash, hBackslash⟩
      intro t ht
      rw [step] at ht
      split_ifs at ht with hStay hUp
      · exact hStack t ht
      · exact hStack t (List.mem_of_mem_tail ht)
      · rcases List.mem_cons.mp ht with rfl | ht
        · rw [not_or] at hStay
          exact ⟨hStay.1, hStay.2, hUp, hSlash, hBackslash⟩
        · exact hStack t ht

------------------------------------------------------------
-- Normal Paths
------------------------------------------------------------

theorem unify_eq_self
    {p : Text}
    (hp : '\\' ∉ p) : unify p = p := by
  rw [unify, Text.replaceChar]
  conv =>
    rhs
    rw [← List.map_id p]
  refine List.map_congr_left fun c hc => ?_
  have hNe : c ≠ '\\' := fun hEq => hp (hEq ▸ hc)
  rw [if_neg hNe, id]

theorem not_mem_unify (p : Text) : '\\' ∉ unify p := by
  rw [unify, Text.replaceChar, List.mem_map]
  rintro ⟨c, -, hc⟩
  split_ifs at hc with hEq
  · exact absurd hc (by decide)
  · exact hEq hc

theorem unify_unify (p : Text) :
    unify (unify p) = unify p :=
  unify_eq_self (not_mem_unify p)

/- Walking over a path without backslashes makes it normal. -/
theorem normalize_eq
    {p : Text}
    (hp : '\\' ∉ p) :
    normalize p = ofSegments (walk (segments p)) := by
  rw [normalize, unify_eq_self hp]

/- Walking over a path collects names only. -/
theorem isName_of_mem_walk (p : Text) :
    ∀ s ∈ walk (segments (unify p)), IsName s := by
  intro s hs
  rw [walk, List.mem_reverse] at hs
  refine isName_of_mem_foldl_step (fun t ht => ?_) (by simp) s hs
  refine ⟨fun hMem => (mem_segments ht _ hMem).1 rfl, fun hMem => ?_⟩
  exact not_mem_unify p (mem_segments ht _ hMem).2

/- A normal path is made of names. -/
theorem exists_names_of_normal
    {p : Text}
    (hNormal : normalize p = p) :
    ∃ ns, (∀ s ∈ ns, IsName s) ∧ p = ofSegments ns :=
  ⟨walk (segments (unify p)), isName_of_mem_walk p,
    hNormal.symm⟩

/- Names put together are found again. -/
theorem segments_ofSegments
    {ns : List Text}
    (hNames : ∀ s ∈ ns, IsName s)
    (hNil : ns ≠ []) : segments (ofSegments ns) = ns :=
  List.splitOn_intercalate '/' (fun s hs => (hNames s hs).slash)
    hNil

theorem names_ofSegments
    {ns : List Text}
    (hNames : ∀ s ∈ ns, IsName s) :
    names (ofSegments ns) = ns := by
  by_cases hNil : ns = []
  · subst hNil
    rfl
  · rw [names, segments_ofSegments hNames hNil,
      List.filter_eq_self]
    exact fun s hs => by simpa using (hNames s hs).ne_nil

section Normal

variable {p : Text}

theorem isName_of_mem_names
    (hNormal : normalize p = p) :
    ∀ s ∈ names p, IsName s := by
  rcases exists_names_of_normal hNormal with ⟨ns, hNames, hEq⟩
  rw [hEq, names_ofSegments hNames]
  exact hNames

theorem ofSegments_names
    (hNormal : normalize p = p) :
    ofSegments (names p) = p := by
  rcases exists_names_of_normal hNormal with ⟨ns, hNames, hEq⟩
  rw [hEq, names_ofSegments hNames]

theorem names_ne_nil
    (hNormal : normalize p = p)
    (hNil : p ≠ []) : names p ≠ [] := by
  intro hNames
  rw [← ofSegments_names hNormal, hNames] at hNil
  exact hNil rfl

end Normal

/- Walking over names put together collects them. -/
theorem foldl_step_segments
    {ns : List Text}
    (hNames : ∀ s ∈ ns, IsName s)
    (stack : List Text) :
    (segments (ofSegments ns)).foldl step stack =
      ns.reverse ++ stack := by
  by_cases hNil : ns = []
  · subst hNil
    simp
  · rw [segments_ofSegments hNames hNil,
      foldl_step_names hNames]

theorem not_mem_ofSegments
    {ns : List Text}
    (hNames : ∀ s ∈ ns, IsName s) : '\\' ∉ ofSegments ns := by
  intro hMem
  rcases mem_ofSegments hMem with hEq | ⟨s, hs, hMem⟩
  · simp at hEq
  · exact (hNames s hs).backslash hMem

end DocPath

end SourceDocs
