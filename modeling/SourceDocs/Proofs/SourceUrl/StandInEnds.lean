import SourceDocs.Proofs.SourceUrl.StandIns
import SourceDocs.Proofs.Text.Collecting
import SourceDocs.Proofs.Text.Words

/-
  Where stand-ins end, and what becomes of them.

  A stand-in is read from one of six fronts, and goes on to
  a blank or a closing sign. What stands behind that sign
  makes no difference to what is read.

  Key definitions include:
    * `SourceDocs.StandInUrl.fronts`
    * `SourceDocs.StandInUrl.IsAbsent`
    * `SourceDocs.StandInUrl.Ends`

  Main results:
    * `SourceDocs.StandInUrl.reader_eq_some_iff`
    * `SourceDocs.StandInUrl.reader_of_isAbsent`
    * `SourceDocs.StandInUrl.reader_append_of_ends`
    * `SourceDocs.StandInUrl.ends_of_reader`
-/

------------------------------------------------------------
-- Fronts
------------------------------------------------------------

namespace SourceDocs

namespace StandInUrl

/- What may stand in front of the host. -/
def schemes : List Text :=
  ["https://".toList, "http://".toList]

/- What stand-ins start with: scheme, host and name. -/
def fronts : List Text :=
  schemes.flatMap fun scheme =>
    made.map fun name => scheme ++ repositoryHost ++ name

/- The end of the longer name of two. -/
def linkMark : Text := "-link".toList

/- The fronts that may go on to a longer one. -/
def shortFronts : List Text :=
  schemes.map (· ++ repositoryHost ++ "your-repo".toList)

theorem mem_fronts_of_mem_shortFronts
    {front : Text}
    (h : front ∈ shortFronts) :
    front ∈ fronts ∧ front ++ linkMark ∈ fronts := by
  revert front
  decide

/- The scheme in front of a text is one of two. -/
theorem webScheme?_eq_some_iff
    {t scheme rest : Text} :
    webScheme? t = some (scheme, rest) ↔
      scheme ∈ schemes ∧ t = scheme ++ rest := by
  constructor
  · intro h
    rw [webScheme?] at h
    split at h
    · next hSecure =>
        cases h
        exact ⟨by simp [schemes], Text.eq_append_of_after? hSecure⟩
    · split at h
      · next hPlain =>
          cases h
          exact ⟨by simp [schemes], Text.eq_append_of_after? hPlain⟩
      · cases h
  · rintro ⟨hScheme, rfl⟩
    simp only [schemes, List.mem_cons, List.not_mem_nil, or_false]
      at hScheme
    rcases hScheme with rfl | rfl
    · rw [webScheme?, Text.after?_append]
    · have hNone :
          Text.after? "https://".toList
            ("http://".toList ++ rest) = none := rfl
      rw [webScheme?, hNone, Text.after?_append]

theorem hosted?_eq_some_iff
    {t front rest : Text} :
    hosted? t = some (front, rest) ↔
      ∃ scheme ∈ schemes,
        front = scheme ++ repositoryHost ∧ t = front ++ rest := by
  simp only [hosted?, bind, Option.bind_eq_some_iff,
    Prod.exists, webScheme?_eq_some_iff,
    Text.after?_eq_some_iff, Option.some.injEq, Prod.mk.injEq]
  constructor
  · rintro ⟨scheme, t', ⟨hScheme, rfl⟩, rest, rfl, rfl, rfl⟩
    exact ⟨scheme, hScheme, rfl,
      (List.append_assoc scheme repositoryHost rest).symm⟩
  · rintro ⟨scheme, hScheme, rfl, rfl⟩
    exact ⟨scheme, _, ⟨hScheme, List.append_assoc _ _ _⟩, rest,
      rfl, rfl, rfl⟩

/- Of two names that fit, the longer one is read. -/
theorem repository?_eq_some_iff
    {t name rest : Text} :
    repository? t = some (name, rest) ↔
      name ∈ made ∧ t = name ++ rest ∧
        (name = "your-repo".toList → ¬ linkMark <+: rest) := by
  have hLonger :
      ∀ rest : Text,
        Text.after? "your-repo-link".toList
            ("your-repo".toList ++ rest) =
          Text.after? linkMark rest :=
    fun _ => rfl
  constructor
  · intro h
    rcases mem_made_of_repository? h with ⟨hMade, rfl⟩
    refine ⟨hMade, rfl, ?_⟩
    rintro rfl ⟨u, rfl⟩
    rw [repository?] at h
    rw [hLonger, Text.after?_append] at h
    have hName := (Prod.mk.inj (Option.some.inj h)).1
    exact absurd hName (by decide)
  · rintro ⟨hMade, rfl, hShort⟩
    simp only [made, List.mem_cons, List.not_mem_nil, or_false]
      at hMade
    rw [repository?]
    rcases hMade with rfl | rfl | rfl
    · have hNone : Text.after? linkMark rest = none := by
        cases hAfter : Text.after? linkMark rest with
        | none => rfl
        | some u =>
            exact absurd
              ⟨u, (Text.eq_append_of_after? hAfter).symm⟩
              (hShort rfl)
      rw [hLonger, hNone, Text.after?_append]
    · rw [Text.after?_append]
    · have hLong :
          Text.after? "your-repo-link".toList
            ("OWNER/REPO".toList ++ rest) = none := rfl
      have hShort :
          Text.after? "your-repo".toList
            ("OWNER/REPO".toList ++ rest) = none := rfl
      rw [hLong, hShort, Text.after?_append]

/- A stand-in is one of the fronts with what follows it. -/
theorem reader_eq_some_iff
    {before : Option Char}
    {t x : Text}
    {v : StandInUrl} :
    reader before t = some (v, x) ↔
      ∃ front ∈ fronts, ∃ rest,
        t = front ++ rest ∧
        (front ∈ shortFronts → ¬ linkMark <+: rest) ∧
        v = ⟨restOf rest⟩ ∧ x = front ++ restOf rest := by
  have hShort :
      ∀ scheme ∈ schemes, ∀ name ∈ made,
        (scheme ++ repositoryHost ++ name ∈ shortFronts ↔
          name = "your-repo".toList) := by
    decide
  simp only [reader, bind, Option.bind_eq_some_iff,
    Prod.exists, hosted?_eq_some_iff, repository?_eq_some_iff,
    Option.some.injEq, Prod.mk.injEq]
  constructor
  · rintro ⟨host, t', ⟨scheme, hScheme, rfl, rfl⟩, name, rest,
      ⟨hName, rfl, hLink⟩, rfl, rfl⟩
    refine ⟨scheme ++ repositoryHost ++ name,
      List.mem_flatMap.mpr
        ⟨scheme, hScheme, List.mem_map_of_mem hName⟩,
      rest, ?_, ?_, rfl, rfl⟩
    · simp
    · rw [hShort scheme hScheme name hName]
      exact hLink
  · rintro ⟨front, hFront, rest, rfl, hLink, rfl, rfl⟩
    rcases List.mem_flatMap.mp hFront with
      ⟨scheme, hScheme, hFront⟩
    rcases List.mem_map.mp hFront with ⟨name, hName, rfl⟩
    rw [hShort scheme hScheme name hName] at hLink
    exact ⟨scheme ++ repositoryHost, name ++ rest,
      ⟨scheme, hScheme, rfl, by simp⟩, name, rest,
      ⟨hName, rfl, hLink⟩, rfl, rfl⟩

/- Nothing is read where no front stands. -/
theorem reader_eq_none_iff
    {before : Option Char}
    {t : Text} :
    reader before t = none ↔
      ∀ front ∈ fronts, ¬ front <+: t := by
  constructor
  · rintro hNone front hFront ⟨rest, rfl⟩
    by_cases hLink :
        front ∈ shortFronts ∧ linkMark <+: rest
    · rcases hLink with ⟨hShort, u, rfl⟩
      have hLong := (mem_fronts_of_mem_shortFronts hShort).2
      have hOnly :
          ∀ f ∈ shortFronts, f ++ linkMark ∉ shortFronts := by
        decide
      have hRead :
          reader before (front ++ (linkMark ++ u)) = some _ :=
        reader_eq_some_iff.mpr
          ⟨front ++ linkMark, hLong, u,
            (List.append_assoc front linkMark u).symm,
            fun h => absurd h (hOnly front hShort), rfl, rfl⟩
      rw [hNone] at hRead
      cases hRead
    · have hRead : reader before (front ++ rest) = some _ :=
        reader_eq_some_iff.mpr
          ⟨front, hFront, rest, rfl,
            fun h hMark => hLink ⟨h, hMark⟩, rfl, rfl⟩
      rw [hNone] at hRead
      cases hRead
  · intro hNone
    cases hRead : reader before t with
    | none => rfl
    | some found =>
        rcases reader_eq_some_iff.mp hRead with
          ⟨front, hFront, rest, rfl, -⟩
        exact absurd (List.prefix_append front rest)
          (hNone front hFront)

theorem ne_nil_of_mem_fronts
    {front : Text}
    (h : front ∈ fronts) : front ≠ [] := by
  revert front
  decide

/- A stand-in covers something. -/
theorem covered_ne_nil
    {before : Option Char}
    {t x : Text}
    {v : StandInUrl}
    (h : reader before t = some (v, x)) : x ≠ [] := by
  rcases reader_eq_some_iff.mp h with
    ⟨front, hFront, rest, -, -, -, rfl⟩
  simp [ne_nil_of_mem_fronts hFront]

theorem skips_iff (t : Text) :
    reader.Skips t ↔ reader none t = none := by
  constructor
  · intro hSkips
    cases hRead : reader none t with
    | none => rfl
    | some found =>
        exact absurd (hSkips _ _ hRead) (covered_ne_nil hRead)
  · intro hNone v x hRead
    rw [hNone] at hRead
    cases hRead

------------------------------------------------------------
-- Texts Without Stand-Ins
------------------------------------------------------------

/- Whether no stand-in starts in a text. -/
def IsAbsent (t : Text) : Prop :=
  ∀ front ∈ fronts, ¬ front <:+: t

instance (t : Text) : Decidable (IsAbsent t) :=
  inferInstanceAs (Decidable (∀ _ ∈ fronts, _))

theorem IsAbsent.of_suffix
    {s t : Text}
    (h : IsAbsent t)
    (hs : s <:+ t) : IsAbsent s :=
  fun front hFront hInfix =>
    h front hFront (hInfix.trans hs.isInfix)

theorem reader_of_isAbsent
    {t : Text}
    (h : IsAbsent t) : reader none t = none :=
  reader_eq_none_iff.mpr fun front hFront hPrefix =>
    h front hFront hPrefix.isInfix

/- What holds no scheme holds no stand-in. -/
theorem isAbsent_of_not_infix
    {t : Text}
    (h : ¬ schemeEnd <:+: t) : IsAbsent t := by
  have hFronts : ∀ front ∈ fronts, schemeEnd <:+: front := by
    decide
  intro front hFront hInfix
  exact h ((hFronts front hFront).trans hInfix)

/- A mark that no stand-in starts with parts two texts. -/
theorem IsAbsent.append_cons
    {c : Char}
    {t u : Text}
    (ht : IsAbsent t)
    (hu : IsAbsent u)
    (hc : ∀ front ∈ fronts, c ∉ front) :
    IsAbsent (t ++ c :: u) := by
  intro front hFront hInfix
  rcases Text.infix_append_cons_cases (hc front hFront) hInfix
    with hLeft | hRight
  · exact ht front hFront hLeft
  · exact hu front hFront hRight

------------------------------------------------------------
-- Ends
------------------------------------------------------------

/- Whether no address goes on into a text. -/
def Ends (t : Text) : Prop :=
  ∀ c, t.head? = some c → isRestChar c = false

theorem ends_cons
    {c : Char}
    (hc : isRestChar c = false)
    (t : Text) : Ends (c :: t) := by
  intro d hd
  cases hd
  exact hc

theorem isRestChar_of_mem_fronts
    {front : Text}
    (h : front ∈ fronts) :
    ∀ c ∈ front, isRestChar c = true := by
  revert front
  decide

theorem isRestChar_of_mem_restOf
    {t : Text}
    {c : Char}
    (hc : c ∈ restOf t) : isRestChar c = true := by
  rw [restOf.eq_def] at hc
  split at hc
  · rcases List.mem_cons.mp hc with rfl | hc
    · decide
    · exact List.mem_takeWhile_imp hc
  · cases hc

/- What consists of such characters does not start there. -/
theorem not_prefix_of_ends
    {p t : Text}
    (hNil : p ≠ [])
    (hp : ∀ c ∈ p, isRestChar c = true)
    (hEnds : Ends t) : ¬ p <+: t := by
  rintro ⟨u, rfl⟩
  rcases List.exists_cons_of_ne_nil hNil with ⟨c, p, rfl⟩
  have hc := hp c List.mem_cons_self
  rw [hEnds c rfl] at hc
  cases hc

/- What consists of them stands in front of the end. -/
theorem prefix_append_iff
    {p s t : Text}
    (hp : ∀ c ∈ p, isRestChar c = true)
    (hEnds : Ends t) : p <+: s ++ t ↔ p <+: s := by
  constructor
  · intro h
    rcases Text.prefix_append_cases h with
      hIn | ⟨p', rfl, hTail⟩
    · exact hIn
    · by_cases hNil : p' = []
      · rw [hNil, List.append_nil]
      · have hp' : ∀ c ∈ p', isRestChar c = true :=
          fun c hc => hp c (List.mem_append_right s hc)
        exact absurd hTail (not_prefix_of_ends hNil hp' hEnds)
  · rintro ⟨u, rfl⟩
    rw [List.append_assoc]
    exact List.prefix_append p (u ++ t)

theorem takeWhile_append_of_ends
    {s t : Text}
    (hEnds : Ends t) :
    (s ++ t).takeWhile isRestChar = s.takeWhile isRestChar := by
  cases t with
  | nil => rw [List.append_nil]
  | cons c t => exact Text.takeWhile_append_cons (hEnds c rfl) s

theorem restOf_append_of_ends
    {s t : Text}
    (hEnds : Ends t) : restOf (s ++ t) = restOf s := by
  cases s with
  | nil =>
      rw [List.nil_append, restOf.eq_def]
      split
      · exact absurd (hEnds '/' rfl) (by decide)
      · rfl
  | cons c s =>
      by_cases hSlash : c = '/'
      · subst hSlash
        rw [List.cons_append, restOf, restOf,
          takeWhile_append_of_ends hEnds]
      · simp [restOf, hSlash]

/- What stands behind an end makes no difference. -/
theorem reader_append_of_ends
    {t : Text}
    (hEnds : Ends t)
    (s : Text) : reader none (s ++ t) = reader none s := by
  have hMark : ∀ c ∈ linkMark, isRestChar c = true := by
    decide
  have hSame :
      ∀ found, reader none (s ++ t) = some found ↔
        reader none s = some found := by
    rintro ⟨v, x⟩
    rw [reader_eq_some_iff, reader_eq_some_iff]
    constructor
    · rintro ⟨front, hFront, rest, hEq, hLink, rfl, rfl⟩
      have hIn : front <+: s :=
        (prefix_append_iff (isRestChar_of_mem_fronts hFront)
          hEnds).mp ⟨rest, hEq.symm⟩
      rcases hIn with ⟨rest', rfl⟩
      rw [List.append_assoc, List.append_cancel_left_eq] at hEq
      subst hEq
      rw [restOf_append_of_ends hEnds]
      refine ⟨front, hFront, rest', rfl, fun h hIn => ?_, rfl,
        rfl⟩
      exact hLink h ((prefix_append_iff hMark hEnds).mpr hIn)
    · rintro ⟨front, hFront, rest, rfl, hLink, rfl, rfl⟩
      refine ⟨front, hFront, rest ++ t,
        List.append_assoc front rest t, fun h hIn => ?_, ?_, ?_⟩
      · exact hLink h ((prefix_append_iff hMark hEnds).mp hIn)
      · rw [restOf_append_of_ends hEnds]
      · rw [restOf_append_of_ends hEnds]
  exact Option.ext fun found => hSame found

/- A stand-in with something behind the name goes to an end. -/
theorem ends_of_reader
    {x u : Text}
    {v : StandInUrl}
    (h : reader none (x ++ u) = some (v, x))
    (hRest : v ≠ ⟨[]⟩) : Ends u := by
  rcases reader_eq_some_iff.mp h with
    ⟨front, -, rest, hEq, -, rfl, rfl⟩
  rw [List.append_assoc, List.append_cancel_left_eq] at hEq
  rw [restOf.eq_def] at hRest hEq
  split at hRest
  · next rest =>
      have hTail : rest.takeWhile isRestChar ++ u = rest :=
        (List.cons.inj hEq).2
      have hDrop := hTail.trans
        (List.takeWhile_append_dropWhile
          (p := isRestChar) (l := rest)).symm
      rw [List.append_cancel_left_eq] at hDrop
      intro c hc
      rw [hDrop] at hc
      exact Text.not_of_head?_dropWhile hc
  · exact absurd rfl hRest

end StandInUrl

end SourceDocs
