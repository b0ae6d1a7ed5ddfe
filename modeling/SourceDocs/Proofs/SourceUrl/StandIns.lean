import Mathlib.Data.List.Infix
import SourceDocs.Proofs.Files.Components
import SourceDocs.Proofs.SourceUrl.BlobUrls
import SourceDocs.Proofs.Text.Cuts
import SourceDocs.SourceUrl.Repair

/-
  Where a URL is taken for a stand-in.

  A stand-in starts with a scheme, and the URL of a path in
  a repository has none but the one at its front and those
  in the path. Behind the host the name of a made-up
  repository may be read, but with something behind it only
  in a repository that is called so.

  Key definitions include:
    * `SourceDocs.HostedRepository.IsStandIn`

  Main results:
    * `SourceDocs.HostedRepository.eq_or_suffix_of_hosted?`
    * `SourceDocs.StandInUrl.reader_steady`
    * `SourceDocs.HostedRepository.value_of_findFirst?`
    * `SourceDocs.SourceRepair.repairUrl_blobUrl_cases`
    * `SourceDocs.SourceRepair.repairUrl_blobUrl`
-/

------------------------------------------------------------
-- Schemes
------------------------------------------------------------

namespace SourceDocs

/- What every scheme ends in. -/
def schemeEnd : Text := "://".toList

/- Two segments hold no scheme that neither of them holds. -/
theorem not_schemeEnd_infix_append
    {a t : Text}
    (ha : '/' ∉ a)
    (ht : ¬ schemeEnd <:+: t)
    (hParted : a.getLast? ≠ some ':' ∨ t.head? ≠ some '/') :
    ¬ schemeEnd <:+: a ++ '/' :: t := by
  rintro ⟨p, q, hEq⟩
  by_cases hp : '/' ∈ p
  · rcases List.eq_append_cons_of_mem hp with ⟨p, r, rfl, hFirst⟩
    rw [List.append_assoc, List.append_assoc, List.cons_append]
      at hEq
    rcases Text.append_mark_inj hFirst ha hEq with ⟨-, rfl⟩
    exact ht ⟨r, q, List.append_assoc r schemeEnd q⟩
  · have hFirst : '/' ∉ p ++ [':'] := by simp [hp]
    have hColon :
        (p ++ [':']) ++ '/' :: ('/' :: q) = a ++ '/' :: t := by
      rw [← hEq, List.append_assoc, List.append_assoc]
      rfl
    rcases Text.append_mark_inj hFirst ha hColon with ⟨rfl, rfl⟩
    simp at hParted

/- A segment alone holds none. -/
theorem not_schemeEnd_infix
    {a : Text}
    (ha : '/' ∉ a) : ¬ schemeEnd <:+: a :=
  fun hInfix => ha (hInfix.subset (by decide))

/- Components that are put together hold none. -/
theorem FilePath.not_schemeEnd_infix
    {cs : List Text}
    (hcs : ∀ s ∈ cs, IsComponent s) :
    ¬ schemeEnd <:+: ofComponents cs := by
  induction cs with
  | nil => exact SourceDocs.not_schemeEnd_infix (by decide)
  | cons s cs ih =>
      have hs := hcs s List.mem_cons_self
      have hRest : ∀ t ∈ cs, IsComponent t :=
        fun t ht => hcs t (List.mem_cons_of_mem s ht)
      rw [ofComponents_eq]
      cases cs with
      | nil =>
          rw [DocPath.ofSegments_singleton]
          exact SourceDocs.not_schemeEnd_infix hs.slash
      | cons t cs =>
          have hHead := head?_ne_of_isAbsolute_eq_false
            (isAbsolute_ofComponents_of_forall hRest)
          rw [DocPath.ofSegments_cons_cons]
          exact not_schemeEnd_infix_append hs.slash (ih hRest)
            (Or.inr hHead)

/- An address on the host starts with a scheme. -/
theorem exists_scheme_of_hosted?
    {t front rest : Text}
    (h : hosted? t = some (front, rest)) :
    t = front ++ rest ∧
      ∃ word tail, '/' ∉ word ∧ word.head? = some 'h' ∧
        front = word ++ (schemeEnd ++ tail) := by
  simp only [hosted?, webScheme?, bind, Option.bind_eq_some_iff,
    Prod.exists] at h
  rcases h with ⟨scheme, t₁, hScheme, t₂, hHost, hParts⟩
  cases hParts
  cases Text.eq_append_of_after? hHost
  split at hScheme
  · next hSecure =>
      cases hScheme
      cases Text.eq_append_of_after? hSecure
      exact ⟨by rw [List.append_assoc],
        "https".toList, repositoryHost, by decide, rfl, rfl⟩
  · split at hScheme
    · next hPlain =>
        cases hScheme
        cases Text.eq_append_of_after? hPlain
        exact ⟨by rw [List.append_assoc],
          "http".toList, repositoryHost, by decide, rfl, rfl⟩
    · cases hScheme

/- What holds no scheme holds no address on the host. -/
theorem hosted?_eq_none_of_not_infix
    {s t : Text}
    (ht : ¬ schemeEnd <:+: t)
    (hs : s <:+ t) : hosted? s = none := by
  cases h : hosted? s with
  | none => rfl
  | some found =>
      rcases exists_scheme_of_hosted? h with
        ⟨hEq, word, tail, -, -, hFront⟩
      rw [hFront, List.append_assoc, List.append_assoc] at hEq
      have hInfix : schemeEnd <:+: s :=
        ⟨word, tail ++ found.2, by rw [hEq, List.append_assoc]⟩
      exact absurd (hInfix.trans hs.isInfix) ht

/-
  An address on the host that starts in a text starts behind
  its first segment, if a scheme cannot end there.
-/
theorem suffix_of_hosted?
    {a t s front rest : Text}
    (ha : '/' ∉ a)
    (hParted : a.getLast? ≠ some ':' ∨ t.head? ≠ some '/')
    (hs : s <:+ a ++ '/' :: t)
    (h : hosted? s = some (front, rest)) : s <:+ t := by
  rcases exists_scheme_of_hosted? h with
    ⟨hEq, word, tail, hWord, hHead, hFront⟩
  have hMark :
      s = (word ++ [':']) ++ '/' :: ('/' :: (tail ++ rest)) := by
    rw [hEq, hFront]
    simp [schemeEnd]
  rcases Text.suffix_append_cases hs with hs | ⟨s', hs', hIn⟩
  · rcases List.suffix_cons_iff.mp hs with hSlash | hs
    · rcases List.head?_eq_some_iff.mp hHead with ⟨u, rfl⟩
      rw [hMark] at hSlash
      exact absurd (List.cons.inj hSlash).1 (by decide)
    · exact hs
  · have hFirst : '/' ∉ word ++ [':'] := by simp [hWord]
    rcases Text.append_mark_inj hFirst
        (fun hc => ha (hIn.subset hc)) (hMark.symm.trans hs')
      with ⟨rfl, rfl⟩
    rcases hIn with ⟨p, rfl⟩
    simp [← List.append_assoc] at hParted

/- What stands behind the scheme of the URL of a path. -/
def HostedRepository.schemeless
    (repository : HostedRepository)
    (branch path : Text) : Text :=
  "github.com".toList ++ '/' :: (repository.owner ++ '/' ::
    (repository.name ++ '/' :: ("blob".toList ++ '/' ::
      (branch ++ '/' :: path))))

theorem HostedRepository.blobUrl_eq
    (repository : HostedRepository)
    (branch path : Text) :
    repository.blobUrl branch path =
      "https://".toList ++ repository.schemeless branch path := by
  rw [blobUrl, address, place, List.append_assoc,
    List.append_assoc, List.cons_append]
  rfl

/-
  An address on the host that starts in the URL of a path is
  the whole URL, or starts in the path.
-/
theorem HostedRepository.eq_or_suffix_of_hosted?
    (repository : HostedRepository)
    {branch path s front rest : Text}
    (hBranch : '/' ∉ branch)
    (hRelative : path.head? ≠ some '/')
    (hs : s <:+ repository.blobUrl branch path)
    (h : hosted? s = some (front, rest)) :
    s = repository.blobUrl branch path ∨ s <:+ path := by
  have hOwner := repository.ownerNamed
  have hName := repository.nameNamed
  have hBlob : '/' ∉ "blob".toList := by decide
  have hBehind :
      s <:+ repository.schemeless branch path → s <:+ path := by
    intro hs
    have hs := suffix_of_hosted? (by decide)
      (Or.inl (by decide)) hs h
    have hs := suffix_of_hosted? hOwner.slash
      (Or.inr (Text.head?_append_ne hName.ne_nil hName.slash _))
      hs h
    have hs := suffix_of_hosted? hName.slash
      (Or.inr (Text.head?_append_ne (by decide) hBlob _)) hs h
    have hs := suffix_of_hosted? hBlob (Or.inl (by decide)) hs h
    exact suffix_of_hosted? hBranch (Or.inr hRelative) hs h
  rw [blobUrl_eq] at hs ⊢
  rcases Text.suffix_append_cases hs with hs | ⟨s', hs', hIn⟩
  · exact Or.inr (hBehind hs)
  · rcases s' with _ | ⟨c, s'⟩
    · exact Or.inr (hBehind (hs' ▸ List.suffix_rfl))
    · left
      rcases exists_scheme_of_hosted? h with
        ⟨hEq, word, tail, -, hHead, rfl⟩
      rcases List.head?_eq_some_iff.mp hHead with ⟨u, rfl⟩
      have hStart : c = 'h' :=
        (List.cons.inj (hs'.symm.trans hEq)).1
      have hOnly :
          ∀ u ∈ "https://".toList.tails, u.head? = some 'h' →
            u = "https://".toList := by
        decide
      rw [hs', hOnly (c :: s') ((List.mem_tails _ _).mpr hIn)
        (congrArg some hStart)]

------------------------------------------------------------
-- Reading Stand-Ins
------------------------------------------------------------

namespace StandInUrl

/- The three ways in which a made-up repository is called. -/
def made : List Text :=
  ["your-repo".toList, "your-repo-link".toList,
    "OWNER/REPO".toList]

theorem mem_made_of_repository?
    {t name rest : Text}
    (h : repository? t = some (name, rest)) :
    name ∈ made ∧ t = name ++ rest := by
  simp only [repository?] at h
  split at h
  · next hLong =>
      cases h
      exact ⟨by simp [made], Text.eq_append_of_after? hLong⟩
  · split at h
    · next hShort =>
        cases h
        exact ⟨by simp [made], Text.eq_append_of_after? hShort⟩
    · split at h
      · next hOwned =>
          cases h
          exact ⟨by simp [made], Text.eq_append_of_after? hOwned⟩
      · cases h

theorem restOf_prefix (t : Text) : restOf t <+: t := by
  rw [restOf.eq_def]
  split
  · next t =>
      rw [List.cons_prefix_cons]
      exact ⟨rfl, List.takeWhile_prefix isRestChar⟩
  · exact List.nil_prefix

/- What is read is a host, a name and what follows. -/
theorem exists_parts_of_reader
    {before : Option Char}
    {t x : Text}
    {v : StandInUrl}
    (h : reader before t = some (v, x)) :
    ∃ front name rest,
      hosted? t = some (front, name ++ rest) ∧
      name ∈ made ∧ v = ⟨restOf rest⟩ ∧
      x = front ++ name ++ restOf rest := by
  simp only [reader, bind, Option.bind_eq_some_iff,
    Prod.exists] at h
  rcases h with ⟨front, t₁, hHost, name, rest, hName, hParts⟩
  cases hParts
  rcases mem_made_of_repository? hName with ⟨hMade, rfl⟩
  exact ⟨front, name, rest, hHost, hMade, rfl, rfl⟩

theorem reader_steady : reader.Steady where
  forgetful _ _ := rfl
  covers hFound := by
    rcases exists_parts_of_reader hFound with
      ⟨front, name, rest, hHost, -, -, rfl⟩
    rcases exists_scheme_of_hosted? hHost with ⟨rfl, -⟩
    rw [← List.append_assoc, List.prefix_append_right_inj]
    exact restOf_prefix rest

end StandInUrl

/- Whether a repository is called like a made-up one. -/
def HostedRepository.IsStandIn
    (repository : HostedRepository) : Prop :=
  repository.owner = "your-repo".toList ∨
    repository.owner = "your-repo-link".toList ∨
    repository.owner = "OWNER".toList ∧
      repository.name = "REPO".toList

instance (repository : HostedRepository) :
    Decidable repository.IsStandIn :=
  inferInstanceAs (Decidable (_ ∨ _ ∨ _ ∧ _))

/- Only there a slash follows such a name. -/
theorem HostedRepository.isStandIn_of_eq
    {repository : HostedRepository}
    {made rest t : Text}
    (hMade : made ∈ StandInUrl.made)
    (hEq :
      repository.owner ++ '/' :: (repository.name ++ '/' :: t) =
        made ++ '/' :: rest) :
    repository.IsStandIn := by
  have hOwner := repository.ownerNamed.slash
  have hName := repository.nameNamed.slash
  simp only [StandInUrl.made, List.mem_cons, List.not_mem_nil,
    or_false] at hMade
  rcases hMade with rfl | rfl | rfl
  · left
    exact (Text.append_mark_inj hOwner (by decide) hEq).1
  · right
    left
    exact (Text.append_mark_inj hOwner (by decide) hEq).1
  · right
    right
    have hOwned :
        repository.owner ++
            '/' :: (repository.name ++ '/' :: t) =
          "OWNER".toList ++ '/' :: ("REPO".toList ++ '/' :: rest) :=
      hEq
    rcases Text.append_mark_inj hOwner (by decide) hOwned with
      ⟨hIs, hBehind⟩
    exact ⟨hIs, (Text.append_mark_inj hName (by decide) hBehind).1⟩

theorem HostedRepository.restOf_eq_nil
    {repository : HostedRepository}
    (hReal : ¬ repository.IsStandIn)
    {made rest t : Text}
    (hMade : made ∈ StandInUrl.made)
    (hEq :
      repository.owner ++ '/' :: (repository.name ++ '/' :: t) =
        made ++ rest) :
    StandInUrl.restOf rest = [] := by
  rw [StandInUrl.restOf.eq_def]
  split
  · next rest =>
      exact absurd (isStandIn_of_eq hMade hEq) hReal
  · rfl

/- What holds no scheme holds no stand-in. -/
theorem StandInUrl.reader_eq_none_of_not_infix
    {s t : Text}
    (ht : ¬ schemeEnd <:+: t)
    (hs : s <:+ t) : StandInUrl.reader none s = none := by
  rw [StandInUrl.reader, hosted?_eq_none_of_not_infix ht hs]
  rfl

/-
  Nothing follows a stand-in that is read in such a URL, if
  none is read in the path.
-/
theorem HostedRepository.value_of_reader
    {repository : HostedRepository}
    (hReal : ¬ repository.IsStandIn)
    {branch path : Text}
    (hBranch : '/' ∉ branch)
    (hPath : ∀ s, s <:+ path → StandInUrl.reader none s = none)
    (hRelative : path.head? ≠ some '/')
    {t x : Text}
    {v : StandInUrl}
    (hSuffix : t <:+ repository.blobUrl branch path)
    (hRead : StandInUrl.reader none t = some (v, x)) :
    v = ⟨[]⟩ := by
  rcases StandInUrl.exists_parts_of_reader hRead with
    ⟨front, made, rest, hHost, hMade, hValue, -⟩
  rcases repository.eq_or_suffix_of_hosted? hBranch hRelative
      hSuffix hHost with rfl | hInPath
  · rw [BlobUrl.hosted?_blobUrl, Option.some.injEq,
      Prod.mk.injEq] at hHost
    rw [hValue, restOf_eq_nil hReal hMade hHost.2]
  · rw [hPath t hInPath] at hRead
    cases hRead

/- So it is with the first one that is found. -/
theorem HostedRepository.value_of_findFirst?
    {repository : HostedRepository}
    (hReal : ¬ repository.IsStandIn)
    {branch path : Text}
    (hBranch : '/' ∉ branch)
    (hPath : ∀ s, s <:+ path → StandInUrl.reader none s = none)
    (hRelative : path.head? ≠ some '/')
    {o : Occurrence StandInUrl}
    (h :
      (repository.blobUrl branch path).findFirst?
        StandInUrl.reader = some o) :
    o.value = ⟨[]⟩ := by
  rcases Text.read_of_findFirst? StandInUrl.reader_steady h with
    ⟨hParts, hFound⟩
  have hSuffix :
      o.covered ++ o.after <:+ repository.blobUrl branch path := by
    rw [hParts]
    exact List.suffix_append o.gap (o.covered ++ o.after)
  exact value_of_reader hReal hBranch hPath hRelative hSuffix hFound

------------------------------------------------------------
-- The Fate Of A Blob URL
------------------------------------------------------------

namespace SourceRepair

/- A stand-in with nothing behind it is no source. -/
theorem repairStandIn_nil (repair : SourceRepair) :
    repair.repairStandIn ⟨[]⟩ = .keep := rfl

/-
  The URL of a path in a real repository is kept, or judged
  as the blob URL that it is read as.
-/
theorem repairUrl_blobUrl_cases
    {repository : HostedRepository}
    (hReal : ¬ repository.IsStandIn)
    (repair : SourceRepair)
    {branch path : Text}
    (hBranch : '/' ∉ branch)
    (hPath : ∀ s, s <:+ path → StandInUrl.reader none s = none)
    (hRelative : path.head? ≠ some '/') :
    repair.repairUrl (repository.blobUrl branch path) = .keep ∨
      ∃ url,
        BlobUrl.ofText? (repository.blobUrl branch path) =
          some url ∧
        repair.repairUrl (repository.blobUrl branch path) =
          repair.repairBlob url := by
  rw [repairUrl]
  split
  · next o hFound =>
      left
      rw [repository.value_of_findFirst? hReal hBranch hPath
        hRelative hFound, repairStandIn_nil]
  · split
    · next url hUrl => exact Or.inr ⟨url, hUrl, rfl⟩
    · exact Or.inl rfl

/-
  It is kept if what can be read of the path is no source or
  leads to a file.
-/
theorem repairUrl_blobUrl_of_locate
    {repository : HostedRepository}
    (hReal : ¬ repository.IsStandIn)
    (repair : SourceRepair)
    {branch path : Text}
    (hBranch : '/' ∉ branch)
    (hPath : ∀ s, s <:+ path → StandInUrl.reader none s = none)
    (hRelative : path.head? ≠ some '/')
    (hKept :
      repair.locate (BlobUrl.stretch path) = .present ∨
        repair.locate (BlobUrl.stretch path) = .notSource) :
    repair.repairUrl (repository.blobUrl branch path) =
      .keep := by
  rcases repairUrl_blobUrl_cases hReal repair hBranch hPath
      hRelative with hKeep | ⟨url, hUrl, hJudged⟩
  · exact hKeep
  · rw [hJudged, repairBlob,
      (BlobUrl.path_eq_of_ofText?_blobUrl hBranch hUrl).2]
    rcases hKept with hKept | hKept <;> rw [hKept]

/- A path without a scheme holds no stand-in. -/
theorem repairUrl_blobUrl
    {repository : HostedRepository}
    (hReal : ¬ repository.IsStandIn)
    (repair : SourceRepair)
    {branch path : Text}
    (hBranch : '/' ∉ branch)
    (hPath : ¬ schemeEnd <:+: path)
    (hRelative : path.head? ≠ some '/')
    (hKept :
      repair.locate (BlobUrl.stretch path) = .present ∨
        repair.locate (BlobUrl.stretch path) = .notSource) :
    repair.repairUrl (repository.blobUrl branch path) = .keep :=
  repairUrl_blobUrl_of_locate hReal repair hBranch
    (fun _ => StandInUrl.reader_eq_none_of_not_infix hPath)
    hRelative hKept

end SourceRepair

end SourceDocs
