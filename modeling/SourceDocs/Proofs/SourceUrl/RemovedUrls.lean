import SourceDocs.Proofs.SourceUrl.Readings

/-
  Which URLs are removed.

  A URL is removed if what its path stands for is a source
  that leads to no file, and if no file in the index has its
  name. Of a stand-in that gives a name only, the index is
  asked for the name as it is written, and the checkout is
  not asked at all; so it has to be a name that the index
  knows if the checkout does.

  Key definitions include:
    * `SourceDocs.SourceRepair.KnowsName`

  Main results:
    * `SourceDocs.SourceRepair.isNowhere_name_iff`
    * `SourceDocs.SourceRepair.repairUrl_eq_remove_iff`
-/

------------------------------------------------------------
-- Names
------------------------------------------------------------

namespace SourceDocs

namespace SourceRepair

/-
  Whether a name stands for itself, and is in the index if
  it leads to a file of the checkout.
-/
structure KnowsName
    (repair : SourceRepair)
    (name : Text) : Prop where
  written : PercentCode.decode name = name
  indexed :
    repair.checkout.isFile (FilePath.join ['.'] name) = true →
      repair.index.path? name ≠ none

instance (repair : SourceRepair) (name : Text) :
    Decidable (repair.KnowsName name) :=
  decidable_of_iff
    (PercentCode.decode name = name ∧
      (repair.checkout.isFile (FilePath.join ['.'] name) = true →
        repair.index.path? name ≠ none))
    ⟨fun h => ⟨h.1, h.2⟩, fun h => ⟨h.written, h.indexed⟩⟩

variable {repair : SourceRepair}

/- Such a name is nowhere if it is not in the index. -/
theorem isNowhere_name_iff
    {name : Text}
    (hSlash : '/' ∉ name)
    (hKnown : repair.KnowsName name) :
    repair.IsNowhere (PercentCode.decode name) ↔
      repair.locate name ≠ .notSource ∧
        repair.index.path? name = none := by
  have hSource :
      repair.locate name ≠ .notSource ↔
        repair.isSource name = true := by
    rw [ne_eq, locate_eq_notSource_iff, hKnown.written,
      Bool.not_eq_false]
  have hName : DocPath.fileName name = name :=
    Text.afterLast_eq_self hSlash
  rw [hKnown.written, hSource]
  constructor
  · rintro ⟨hIs, -, hIndex⟩
    rw [hName] at hIndex
    exact ⟨hIs, hIndex⟩
  · rintro ⟨hIs, hIndex⟩
    refine ⟨hIs, ?_, by rwa [hName]⟩
    exact Bool.eq_false_iff.mpr fun hFile =>
      hKnown.indexed hFile hIndex

------------------------------------------------------------
-- Removed URLs
------------------------------------------------------------

/-
  Exactly what is nowhere is removed, in every checkout and
  with every index.
-/
theorem repairUrl_eq_remove_iff
    {url : Text}
    (hNames :
      ∀ r ∈ repair.reading? url, r.form = .standInName →
        repair.KnowsName r.path) :
    repair.repairUrl url = .remove ↔
      ∃ r ∈ repair.reading? url,
        repair.IsNowhere (PercentCode.decode r.path) := by
  rw [repairUrl_eq_verdict]
  cases hReading : repair.reading? url with
  | none => simp
  | some r =>
      simp only [Option.map_some, Option.getD_some,
        Option.mem_some_iff, exists_eq_left',
        verdict_eq_remove_iff]
      split_ifs with hForm
      · -- Here the index is asked for the name as it is written.
        have hParts := of_reading?_standInName hReading hForm
        exact (isNowhere_name_iff hParts.2
          (hNames r hReading hForm)).symm
      · exact locate_eq_missing_iff

theorem repairUrl_eq_remove_iff_of_each_form :
    let root : Folder :=
      .folder "src".toList
        (.file "A.cs".toList (.text []) .empty) .empty
    let repair : SourceRepair :=
      { checkout := root
        template :=
          HostedRepository.template
            ⟨"org".toList, "shop".toList, by decide, by decide⟩
            "main".toList
        index :=
          SourceIndex.ofFolder root "src".toList
            SourceIndex.defaultSkipped ["cs".toList]
        extensions := ["cs".toList] }
    let gone : List Text :=
      ["https://github.com/org/shop/blob/dev/x/G.cs".toList,
        "https://github.com/your-repo/x/blob/dev/%47.cs".toList,
        "https://github.com/your-repo/G.cs#L3".toList]
    ∀ url ∈ gone,
      (∀ r ∈ repair.reading? url, r.form = .standInName →
          repair.KnowsName r.path) ∧
        repair.repairUrl url = .remove ∧
        ∃ r ∈ repair.reading? url,
          repair.IsNowhere (PercentCode.decode r.path) := by
  intro root repair gone url hUrl
  have hHold :
      ∀ url ∈ gone,
        (∀ r ∈ repair.reading? url, r.form = .standInName →
            repair.KnowsName r.path) ∧
          repair.repairUrl url = .remove := by
    decide +kernel
  rcases hHold url hUrl with ⟨hNames, hRemoved⟩
  exact ⟨hNames, hRemoved,
    (repairUrl_eq_remove_iff hNames).mp hRemoved⟩

/-
  A stand-in is removed though the index has the file that
  its name stands for, and though its name leads to a file
  of the checkout.
-/
theorem repairUrl_eq_remove_iff_changes :
    let root : Folder :=
      .file "Build.cs".toList (.text [])
        (.folder "src".toList
          (.file "A b.cs".toList (.text []) .empty) .empty)
    let repair : SourceRepair :=
      { checkout := root
        template :=
          HostedRepository.template
            ⟨"org".toList, "shop".toList, by decide, by decide⟩
            "main".toList
        index :=
          SourceIndex.ofFolder root "src".toList
            SourceIndex.defaultSkipped ["cs".toList]
        extensions := ["cs".toList] }
    let coded : Text := "A%20b.cs".toList
    let outside : Text := "Build.cs".toList
    let standIn (name : Text) : Text :=
      "https://github.com/your-repo/".toList ++ name
    let isName (name : Text) : UrlReading :=
      ⟨⟨"main".toList, name, none⟩, .standInName⟩
    repair.reading? (standIn coded) = some (isName coded) ∧
      repair.index.path? (PercentCode.decode coded) =
        some "src/A b.cs".toList ∧
      repair.repairUrl (standIn coded) = .remove ∧
      repair.reading? (standIn outside) = some (isName outside) ∧
      repair.checkout.isFile (FilePath.join ['.'] outside) =
        true ∧
      repair.repairUrl (standIn outside) = .remove := by
  decide +kernel

end SourceRepair

end SourceDocs
