import SourceDocs.Proofs.Paths.PercentCodes
import SourceDocs.Proofs.SourceUrl.IndexedPaths
import SourceDocs.Proofs.SourceUrl.Readings
import SourceDocs.Proofs.SourceUrl.RebuiltUrls

/-
  What becomes of a URL that repair has built.

  Repair builds a URL for a file in the index, or for the
  path that a stand-in gave. The URL is read as a blob URL,
  and so what it carries of the path goes up to a query or a
  fragment and is decoded. If that is the path, then the file
  is found where it was found before, and the URL is kept or
  built once more.

  Key definitions include:
    * `SourceDocs.SourceRepair.CarriesTo`
    * `SourceDocs.SourceRepair.ReadsBack`

  Main results:
    * `SourceDocs.SourceRepair.repairUrl_blobUrl_fragment`
    * `SourceDocs.SourceRepair.settles_of_carriesTo`
    * `SourceDocs.SourceRepair.repairUrl_of_repairUrl_eq_replace`
-/

------------------------------------------------------------
-- Indexed Paths
------------------------------------------------------------

namespace SourceDocs

/-
  The path of a file in the index ends in its name, and it
  is relative and holds no stand-in.
-/
theorem SourceIndex.of_path?_ofFolder
    {root : Folder}
    {sourceRoot name path : Text}
    {skipped extensions : List Text}
    (hSorted : root.Sorted)
    (hNamed : root.Named)
    (h :
      (ofFolder root sourceRoot skipped extensions).path? name =
        some path) :
    DocPath.fileName path = name ∧
      path.head? ≠ some '/' ∧
      StandInUrl.IsAbsent path := by
  rcases exists_components_of_path? hSorted hNamed h with
    ⟨cs, hcs, rfl⟩
  have hRelative :=
    FilePath.isAbsolute_ofComponents_of_forall hcs
  exact ⟨FilePath.fileName_ofComponents
      (hcs name (by simp)).slash cs,
    FilePath.head?_ne_of_isAbsolute_eq_false hRelative,
    StandInUrl.isAbsent_of_not_infix
      (FilePath.not_schemeEnd_infix hcs)⟩

------------------------------------------------------------
-- Conditions
------------------------------------------------------------

namespace SourceRepair

/-
  Whether what a URL carries of a path, if it can be taken
  for a source at all, is the place that is meant.
-/
def CarriesTo
    (repair : SourceRepair)
    (path place : Text) : Prop :=
  repair.isSource
      (PercentCode.decode (BlobUrl.stretch path)) = true →
    PercentCode.decode (BlobUrl.stretch path) = place

instance (repair : SourceRepair) (path place : Text) :
    Decidable (repair.CarriesTo path place) :=
  inferInstanceAs (Decidable (_ → _))

/-
  Whether a URL that is built for a reading is read as it was
  built: nothing is filled into the branch, no stand-in comes
  first, and a path is carried as it is, be it the one that
  was read or the one of a file that the index has.
-/
structure ReadsBack
    (repair : SourceRepair)
    (r : UrlReading) : Prop where
  branch : ¬ UrlTemplate.pathMark <:+: r.branch
  fragment : StandInUrl.IsAbsent (DocPath.fragment r.fragment)
  kept :
    repair.locate r.path = .present ∨
        repair.locate r.path = .notSource →
      StandInUrl.IsAbsent r.path ∧
        repair.CarriesTo (r.path.dropWhile (· == '/'))
          (PercentCode.decode r.path)
  found :
    ∀ name ∈
        [r.path, DocPath.fileName (PercentCode.decode r.path)],
      ∀ place ∈ repair.index.path? name,
        repair.CarriesTo place place

instance (repair : SourceRepair) (r : UrlReading) :
    Decidable (repair.ReadsBack r) :=
  decidable_of_iff
    (¬ UrlTemplate.pathMark <:+: r.branch ∧
      StandInUrl.IsAbsent (DocPath.fragment r.fragment) ∧
      (repair.locate r.path = .present ∨
          repair.locate r.path = .notSource →
        StandInUrl.IsAbsent r.path ∧
          repair.CarriesTo (r.path.dropWhile (· == '/'))
            (PercentCode.decode r.path)) ∧
      ∀ name ∈
          [r.path, DocPath.fileName (PercentCode.decode r.path)],
        ∀ place ∈ repair.index.path? name,
          repair.CarriesTo place place)
    ⟨fun ⟨hBranch, hFragment, hKept, hFound⟩ =>
      ⟨hBranch, hFragment, hKept, hFound⟩,
     fun h => ⟨h.branch, h.fragment, h.kept, h.found⟩⟩

variable {repair : SourceRepair}
variable {repository : HostedRepository}
variable {own branch path : Text}
variable {fragment : Option Text}

------------------------------------------------------------
-- Places
------------------------------------------------------------

/-
  Where the path of a built URL may lead: to a file, to no
  source, or to the file that the path is of, by its name.
-/
def Settles
    (repair : SourceRepair)
    (path : Text) : Prop :=
  repair.locate (BlobUrl.stretch path) = .present ∨
    repair.locate (BlobUrl.stretch path) = .notSource ∨
    BlobUrl.stretch path = path ∧
      repair.locate path = .elsewhere path

/- What is no source settles. -/
theorem settles_of_isSource
    (h :
      repair.isSource
          (PercentCode.decode (BlobUrl.stretch path)) = true →
        repair.Settles path) :
    repair.Settles path := by
  cases hSource :
      repair.isSource
        (PercentCode.decode (BlobUrl.stretch path)) with
  | false =>
      exact Or.inr (Or.inl (locate_eq_notSource_iff.mpr hSource))
  | true => exact h hSource

/- A path that is carried is found by its name. -/
theorem settles_of_carriesTo
    (hCarries : repair.CarriesTo path path)
    (hIndex :
      repair.index.path? (DocPath.fileName path) = some path) :
    repair.Settles path := by
  refine settles_of_isSource fun hSource => ?_
  have hDecoded := hCarries hSource
  -- Nothing is cut off, as decoding makes no text longer.
  have hWhole : BlobUrl.stretch path = path :=
    PercentCode.eq_of_decode_takeWhile hDecoded
  rw [hDecoded] at hSource
  rw [hWhole] at hDecoded
  rw [Settles, hWhole, locate, hDecoded]
  simp only [hSource, Bool.not_true, Bool.false_eq_true,
    if_false, hIndex]
  split_ifs
  · exact Or.inl rfl
  · exact Or.inr (Or.inr ⟨trivial, rfl⟩)

/- So is one that leads where another did that was kept. -/
theorem settles_of_kept
    {written : Text}
    (hCarries :
      repair.CarriesTo path (PercentCode.decode written))
    (hKept :
      repair.locate written = .present ∨
        repair.locate written = .notSource) :
    repair.Settles path := by
  refine settles_of_isSource fun hSource => ?_
  have hSame :
      repair.locate (BlobUrl.stretch path) =
        repair.locate written :=
    locate_congr (hCarries hSource)
  rw [← hSame] at hKept
  rcases hKept with hThere | hOther
  · exact Or.inl hThere
  · exact Or.inr (Or.inl hOther)

------------------------------------------------------------
-- Built URLs
------------------------------------------------------------

/-
  The URL of a path that settles is kept, or built once more
  for the path.
-/
theorem repairUrl_blobUrl_fragment
    (hTemplate : repair.template = repository.template own)
    (hReal : ¬ repository.IsStandIn)
    (hBranch : '/' ∉ branch)
    (hMark : ¬ UrlTemplate.pathMark <:+: branch)
    (hRelative : path.head? ≠ some '/')
    (hAbsent :
      StandInUrl.IsAbsent (path ++ DocPath.fragment fragment))
    (hSettles : repair.Settles path) :
    let v : Text :=
      repository.blobUrl branch (path ++ DocPath.fragment fragment)
    repair.repairUrl v = .keep ∨
      repair.repairUrl v = .replace v := by
  intro v
  have hHead := head?_append_fragment hRelative fragment
  rcases repairUrl_blobUrl_cases hReal repair hBranch
      (fun s hs =>
        StandInUrl.reader_of_isAbsent (hAbsent.of_suffix hs))
      hHead with hKeep | ⟨url, hUrl, hJudged⟩
  · exact Or.inl hKeep
  have hRead := BlobUrl.path_eq_of_ofText?_blobUrl hBranch hUrl
  rw [BlobUrl.stretch_append_fragment] at hRead
  rw [hJudged, repairBlob, hRead.1, hRead.2]
  rcases hSettles with hThere | hOther | ⟨hWhole, hFound⟩
  · rw [hThere]
    exact Or.inl rfl
  · rw [hOther]
    exact Or.inl rfl
  · have hFragment :=
      BlobUrl.fragment_eq_of_ofText?_blobUrl hBranch hWhole hUrl
    rw [hWhole, hFound]
    right
    dsimp only
    rw [rebuild_eq hTemplate hMark hRelative, hFragment]

theorem isAbsent_append_fragment
    (hPath : StandInUrl.IsAbsent path)
    (hFragment :
      StandInUrl.IsAbsent (DocPath.fragment fragment)) :
    StandInUrl.IsAbsent (path ++ DocPath.fragment fragment) := by
  rcases DocPath.fragment_cases fragment with
    hNone | ⟨anchor, -, hShown⟩
  · rwa [hNone, List.append_nil]
  · rw [hShown] at hFragment ⊢
    exact hPath.append_cons
      (hFragment.of_suffix (List.suffix_cons '#' anchor))
      (by decide)

/-
  A URL that repair builds on the default format needs no
  other repair, over every checkout and with its index.
-/
theorem repairUrl_of_repairUrl_eq_replace
    {sourceRoot : Text}
    {skipped extensions : List Text}
    (hTemplate : repair.template = repository.template own)
    (hReal : ¬ repository.IsStandIn)
    (hOwn : '/' ∉ own)
    (hSorted : repair.checkout.Sorted)
    (hNamed : repair.checkout.Named)
    (hIndex :
      repair.index =
        .ofFolder repair.checkout sourceRoot skipped extensions)
    {url v : Text}
    (hReads : ∀ r ∈ repair.reading? url, repair.ReadsBack r)
    (h : repair.repairUrl url = .replace v) :
    repair.repairUrl v = .keep ∨
      repair.repairUrl v = .replace v := by
  have hTemplateOwn : '/' ∉ repair.template.branch := by
    rw [hTemplate]
    exact hOwn
  rcases exists_of_repairUrl_eq_replace h with
    ⟨r, path, hReading, rfl, hMay⟩
  have hBack := hReads r hReading
  have hBranch := slash_not_mem_branch hTemplateOwn hReading
  rcases hMay with ⟨name, hName, hFound⟩ | ⟨rfl, hKept⟩
  · have hEntered := hFound
    rw [hIndex] at hEntered
    rcases SourceIndex.of_path?_ofFolder hSorted hNamed hEntered with
      ⟨hLast, hRelative, hAbsent⟩
    have hCarries :=
      hBack.found name (by simpa using hName) path hFound
    rw [rebuild_eq hTemplate hBack.branch hRelative]
    -- The name that the index was asked for ends what is built.
    rw [← hLast] at hFound
    exact repairUrl_blobUrl_fragment hTemplate hReal hBranch
      hBack.branch hRelative
      (isAbsent_append_fragment hAbsent hBack.fragment)
      (settles_of_carriesTo hCarries hFound)
  · have hSuffix :
        r.path.dropWhile (· == '/') <:+ r.path :=
      List.dropWhile_suffix _
    have hRelative :
        (r.path.dropWhile (· == '/')).head? ≠ some '/' :=
      fun hHead =>
        absurd (Text.not_of_head?_dropWhile hHead) (by decide)
    rcases hBack.kept hKept with ⟨hAbsent, hCarries⟩
    rw [rebuild_eq_dropWhile hTemplate hBack.branch]
    exact repairUrl_blobUrl_fragment hTemplate hReal hBranch
      hBack.branch hRelative
      (isAbsent_append_fragment (hAbsent.of_suffix hSuffix)
        hBack.fragment)
      (settles_of_kept hCarries hKept)

theorem repairUrl_of_repairUrl_eq_replace_of_each_form :
    let root : Folder :=
      .folder "src".toList
        (.file "A b.cs".toList (.text [])
          (.file "B.cs".toList (.text []) .empty)) .empty
    let repository : HostedRepository :=
      ⟨"org".toList, "shop".toList, by decide, by decide⟩
    let repair : SourceRepair :=
      { checkout := root
        template := repository.template "main".toList
        index :=
          .ofFolder root "src".toList
            SourceIndex.defaultSkipped ["cs".toList]
        extensions := ["cs".toList] }
    let host : Text := "https://github.com/".toList
    let replaced : List (Text × Text) :=
      [(host ++ "org/shop/blob/dev/A%20b.cs?plain=1#L3".toList,
          host ++ "org/shop/blob/dev/src/A b.cs#L3".toList),
        (host ++ "your-repo/x/B.cs#L4".toList,
          host ++ "org/shop/blob/main/src/B.cs#L4".toList),
        (host ++ "OWNER/REPO/blob/dev/README.md?plain=1".toList,
          host ++ "org/shop/blob/dev/README.md?plain=1".toList)]
    ∀ pair ∈ replaced,
      (∀ r ∈ repair.reading? pair.1, repair.ReadsBack r) ∧
        repair.repairUrl pair.1 = .replace pair.2 ∧
        (repair.repairUrl pair.2 = .keep ∨
          repair.repairUrl pair.2 = .replace pair.2) := by
  intro root repository repair host replaced pair hPair
  have hHold :
      ∀ pair ∈ replaced,
        (∀ r ∈ repair.reading? pair.1, repair.ReadsBack r) ∧
          repair.repairUrl pair.1 = .replace pair.2 := by
    decide +kernel
  have hReal : ¬ repository.IsStandIn := by decide
  have hOwn : '/' ∉ "main".toList := by decide
  have hSorted : repair.checkout.Sorted := by decide +kernel
  have hNamed : repair.checkout.Named := by decide +kernel
  have hIndex :
      repair.index =
        .ofFolder repair.checkout "src".toList
          SourceIndex.defaultSkipped ["cs".toList] := rfl
  rcases hHold pair hPair with ⟨hReads, hReplaced⟩
  exact ⟨hReads, hReplaced,
    repairUrl_of_repairUrl_eq_replace rfl hReal hOwn hSorted
      hNamed hIndex hReads hReplaced⟩

/-
  Otherwise a URL that is built is repaired again: with a
  query behind the path, with the mark of the path in the
  branch, with a stand-in in the fragment, and with the name
  of a file that reads as a percent code.
-/
theorem repairUrl_of_repairUrl_eq_replace_changes :
    let root : Folder :=
      .folder "src".toList
        (.file "%41.cs".toList (.text [])
          (.file "B.cs".toList (.text []) .empty)) .empty
    let repository : HostedRepository :=
      ⟨"org".toList, "shop".toList, by decide, by decide⟩
    let repair : SourceRepair :=
      { checkout := root
        template := repository.template "main".toList
        index :=
          .ofFolder root "src".toList
            SourceIndex.defaultSkipped ["cs".toList]
        extensions := ["cs".toList] }
    let made (rest : Text) : Text :=
      "https://github.com/your-repo/".toList ++ rest
    let real (rest : Text) : Text :=
      "https://github.com/org/shop/blob/".toList ++ rest
    let twice (url v : Text) : UrlVerdict × UrlVerdict :=
      (repair.repairUrl url, repair.repairUrl v)
    let asked : Text := real "main/G.cs?plain=1".toList
    let filled : Text := real "src/B.cs/src/B.cs".toList
    let linked : Text :=
      real "main/src/B.cs#".toList ++ made "G.cs".toList
    let coded : Text := real "main/src/%41.cs".toList
    ¬ repository.IsStandIn ∧
      twice (made "x/blob/main/G.cs?plain=1".toList) asked =
        (.replace asked, .remove) ∧
      twice (real (UrlTemplate.pathMark ++ "/B.cs".toList))
          filled =
        (.replace filled,
          .replace (real "src/src/B.cs".toList)) ∧
      twice (made "B.cs#".toList ++ made "G.cs".toList) linked =
        (.replace linked, .remove) ∧
      twice (real "main/%2541.cs".toList) coded =
        (.replace coded, .remove) := by
  decide +kernel

end SourceRepair

end SourceDocs
