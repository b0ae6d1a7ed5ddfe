import SourceDocs.Proofs.SourceUrl.Readings
import SourceDocs.Proofs.SourceUrl.WebLinks

/-
  URLs that do not lead to the host of repositories.

  Such a URL is no blob URL, as a blob URL is read from its
  front. A stand-in is looked for anywhere in a URL, and so a
  foreign one is kept unless the first stand-in in it asks
  for a source. A click line or a link whose URL is kept
  stays as it was written.

  Key definitions include:
    * `SourceDocs.IsForeign`
    * `SourceDocs.SourceRepair.AsksForSource`

  Main results:
    * `SourceDocs.SourceRepair.form_ne_blob_of_isForeign`
    * `SourceDocs.SourceRepair.repairUrl_eq_keep_iff_of_isForeign`
-/

------------------------------------------------------------
-- Foreign URLs
------------------------------------------------------------

namespace SourceDocs

/- Whether a URL does not start with the host. -/
def IsForeign (url : Text) : Prop :=
  ∀ scheme ∈ StandInUrl.schemes,
    ¬ scheme ++ repositoryHost <+: url

instance (url : Text) : Decidable (IsForeign url) :=
  inferInstanceAs (Decidable (∀ _ ∈ StandInUrl.schemes, _))

theorem hosted?_of_isForeign
    {url : Text}
    (h : IsForeign url) : hosted? url = none := by
  cases hHost : hosted? url with
  | none => rfl
  | some found =>
      rcases StandInUrl.hosted?_eq_some_iff.mp hHost with
        ⟨scheme, hScheme, hFront, hEq⟩
      rw [hFront] at hEq
      exact absurd ⟨found.2, hEq.symm⟩ (h scheme hScheme)

theorem BlobUrl.ofText?_of_isForeign
    {url : Text}
    (h : IsForeign url) : ofText? url = none := by
  rw [ofText?, hosted?_of_isForeign h]
  rfl

------------------------------------------------------------
-- Where They Are Written
------------------------------------------------------------

theorem ClickLine.covered_of_mem_cut
    {t : Text}
    {o : Occurrence ClickLine}
    (ho : o ∈ (t.cut reader).occurrences) :
    o.covered = o.value.render := by
  rcases Text.exists_read_of_mem_cutFrom ho with
    ⟨before, u, hRead⟩
  rw [reader] at hRead
  split_ifs at hRead
  rcases Option.map_eq_some_iff.mp hRead with ⟨line, -, hLine⟩
  rcases Prod.mk.inj hLine with ⟨hValue, hCovered⟩
  rw [← hValue, hCovered]

theorem Link.covered_of_mem_web
    {t : Text}
    {o : Occurrence Link}
    (ho : o ∈ (t.cut webReader).occurrences) :
    o.covered = o.value.render := by
  rcases Text.exists_read_of_mem_cutFrom ho with
    ⟨before, u, hRead⟩
  exact (webReader_eq_some_iff.mp hRead).2.2.2

------------------------------------------------------------
-- Their Fate
------------------------------------------------------------

namespace SourceRepair

variable {repair : SourceRepair}
variable {url : Text}

/-
  Whether a URL is read as a file on a branch, or as the name
  of a source.
-/
def AsksForSource
    (repair : SourceRepair)
    (url : Text) : Prop :=
  ∃ r ∈ repair.reading? url,
    r.form = .standInName →
      repair.isSource (PercentCode.decode r.path) = true

instance (repair : SourceRepair) (url : Text) :
    Decidable (repair.AsksForSource url) :=
  inferInstanceAs (Decidable (∃ r ∈ repair.reading? url, _ → _))

theorem form_ne_blob_of_isForeign
    {r : UrlReading}
    (hForeign : IsForeign url)
    (h : repair.reading? url = some r) : r.form ≠ .blob := by
  rcases reading?_cases h with ⟨standIn, rfl⟩ | ⟨blob, hBlob, -⟩
  · rcases repair.readStandIn_cases standIn with
      ⟨behind, hForm, -⟩ | ⟨address, hForm, -⟩
    · rw [hForm]
      decide
    · rw [hForm]
      decide
  · rw [BlobUrl.ofText?_of_isForeign hForeign] at hBlob
    cases hBlob

/-
  A foreign URL is kept exactly if no stand-in in it asks for
  a source. Then the click lines and the links that have it
  are kept in every text.
-/
theorem repairUrl_eq_keep_iff_of_isForeign
    (repair : SourceRepair)
    {url : Text}
    (hForeign : IsForeign url) :
    (repair.repairUrl url = .keep ↔ ¬ repair.AsksForSource url) ∧
      (¬ repair.AsksForSource url →
        (∀ t : Text, ∀ o ∈ (t.cut ClickLine.reader).occurrences,
          o.value.url = url →
            repair.repairClick o.value = o.covered) ∧
        ∀ t : Text, ∀ o ∈ (t.cut Link.webReader).occurrences,
          o.value.target = url →
            repair.repairLink o.value = o.covered) := by
  have hKept :
      repair.repairUrl url = .keep ↔
        ¬ repair.AsksForSource url := by
    rw [repairUrl_eq_verdict, AsksForSource]
    cases hReading : repair.reading? url with
    | none => simp
    | some r =>
        have hForm := form_ne_blob_of_isForeign hForeign hReading
        simp only [Option.map_some, Option.getD_some,
          verdict_eq_keep_iff, locate_eq_notSource_iff,
          Option.mem_some_iff, exists_eq_left']
        cases hIs : r.form with
        | blob => exact absurd hIs hForm
        | standInPath => simp
        | standInName => simp
  refine ⟨hKept, fun hAsks => ⟨?_, ?_⟩⟩
  · rintro t o ho rfl
    rw [repairClick, hKept.mpr hAsks,
      ClickLine.covered_of_mem_cut ho]
  · rintro t o ho rfl
    rw [repairLink, hKept.mpr hAsks, Link.covered_of_mem_web ho]

theorem repairUrl_eq_keep_iff_of_isForeign_mirror :
    let root : Folder :=
      .folder "src".toList
        (.file "A.cs".toList (.text []) .empty) .empty
    let repair : SourceRepair :=
      { checkout := root
        template :=
          HostedRepository.template
            ⟨"org".toList, "shop".toList, by decide, by decide⟩
            "main".toList
        index :=
          SourceIndex.ofFolder root ['.']
            SourceIndex.defaultSkipped ["cs".toList]
        extensions := ["cs".toList] }
    let mirrored : Text :=
      "https://mirror.org/https://github.com/".toList
    let gone : Text :=
      mirrored ++ "org/shop/blob/main/G.cs".toList
    let readme : Text := mirrored ++ "your-repo/README.md".toList
    IsForeign gone ∧ ¬ repair.AsksForSource gone ∧
      repair.repairUrl gone = .keep ∧
      IsForeign readme ∧ ¬ repair.AsksForSource readme ∧
      repair.repairUrl readme = .keep := by
  intro root repair mirrored gone readme
  have hGone : IsForeign gone ∧ ¬ repair.AsksForSource gone := by
    decide +kernel
  have hReadme :
      IsForeign readme ∧ ¬ repair.AsksForSource readme := by
    decide +kernel
  have hGoneFate :=
    repairUrl_eq_keep_iff_of_isForeign repair hGone.1
  have hReadmeFate :=
    repairUrl_eq_keep_iff_of_isForeign repair hReadme.1
  exact ⟨hGone.1, hGone.2, hGoneFate.1.mpr hGone.2, hReadme.1,
    hReadme.2, hReadmeFate.1.mpr hReadme.2⟩

/-
  A mirror of a stand-in is none of the host's addresses, but
  it is removed or replaced, in click lines and in links.
-/
theorem repairUrl_eq_keep_iff_of_isForeign_changes :
    let root : Folder :=
      .folder "src".toList
        (.file "A.cs".toList (.text []) .empty) .empty
    let repair : SourceRepair :=
      { checkout := root
        template :=
          HostedRepository.template
            ⟨"org".toList, "shop".toList, by decide, by decide⟩
            "main".toList
        index :=
          SourceIndex.ofFolder root ['.']
            SourceIndex.defaultSkipped ["cs".toList]
        extensions := ["cs".toList] }
    let mirrored (name : Text) : Text :=
      "https://mirror.org/https://github.com/your-repo/".toList ++
        name
    let there : Text :=
      "https://github.com/org/shop/blob/main/src/A.cs".toList
    let click (url : Text) : Text :=
      "click A \"".toList ++ url ++ ['"']
    let link (url : Text) : Text :=
      "[a](".toList ++ url ++ [')']
    let gone : Text := mirrored "G.cs".toList
    let moved : Text := mirrored "A.cs".toList
    IsForeign gone ∧ IsForeign moved ∧
      repair.repairUrl gone = .remove ∧
      repair.repairClicks (click gone) = removedClick ∧
      repair.repairLinks (link gone) = ['a'] ∧
      repair.repairUrl moved = .replace there ∧
      repair.repairClicks (click moved) = click there ∧
      repair.repairLinks (link moved) = link there := by
  decide +kernel

end SourceRepair

end SourceDocs
