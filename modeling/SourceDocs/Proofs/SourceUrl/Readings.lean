import SourceDocs.Proofs.SourceUrl.BlobUrls
import SourceDocs.SourceUrl.Repair

/-
  What a URL says of a file.

  A URL is read in one of three forms: as a blob URL, as a
  stand-in with a whole path, or as a stand-in with the name
  of a file only. What becomes of it depends on the form and
  on where its path leads.

  Key definitions include:
    * `SourceDocs.UrlReading`
    * `SourceDocs.SourceRepair.reading?`
    * `SourceDocs.SourceRepair.verdict`
    * `SourceDocs.SourceRepair.IsNowhere`
    * `SourceDocs.SourceRepair.MayBuild`

  Main results:
    * `SourceDocs.SourceRepair.repairUrl_eq_verdict`
    * `SourceDocs.SourceRepair.verdict_eq_keep_iff`
    * `SourceDocs.SourceRepair.verdict_eq_remove_iff`
    * `SourceDocs.SourceRepair.exists_of_repairUrl_eq_replace`
-/

------------------------------------------------------------
-- Readings
------------------------------------------------------------

namespace SourceDocs

/- The forms in which a URL gives a file. -/
inductive UrlForm where
  | blob
  | standInPath
  | standInName
  deriving DecidableEq, Repr

/- A file on a branch, and how a URL gives it. -/
structure UrlReading extends BlobUrl where
  form : UrlForm
  deriving DecidableEq, Repr

namespace SourceRepair

/- How a stand-in is read. -/
def readStandIn
    (repair : SourceRepair)
    (url : StandInUrl) : UrlReading :=
  let (address, fragment) := splitFragment url.rest
  match Text.cutAt? "/blob/".toList address with
  | some (_, behind) =>
    let (branch, path) := repair.branchAndPath behind
    ⟨⟨branch, path, fragment⟩, .standInPath⟩
  | none =>
    ⟨⟨repair.template.branch, DocPath.fileName address, fragment⟩,
      .standInName⟩

/- How a URL is read: by the first stand-in, or as a whole. -/
def reading?
    (repair : SourceRepair)
    (url : Text) : Option UrlReading :=
  match url.findFirst? StandInUrl.reader with
  | some o => some (repair.readStandIn o.value)
  | none => (BlobUrl.ofText? url).map (⟨·, .blob⟩)

/- What becomes of a URL that is read so. -/
def verdict
    (repair : SourceRepair)
    (r : UrlReading) : UrlVerdict :=
  match r.form with
  | .blob => repair.repairBlob r.toBlobUrl
  | .standInPath =>
    repair.repairStandInBlob r.branch r.path r.fragment
  | .standInName => repair.repairStandInName r.path r.fragment

variable {repair : SourceRepair}
variable {url : Text}
variable {r : UrlReading}

theorem repairStandIn_eq_verdict
    (repair : SourceRepair)
    (url : StandInUrl) :
    repair.repairStandIn url =
      repair.verdict (repair.readStandIn url) := by
  rw [repairStandIn, readStandIn]
  rcases splitFragment url.rest with ⟨address, fragment⟩
  dsimp only
  cases Text.cutAt? "/blob/".toList address <;> rfl

/- A URL that is not read at all is kept. -/
theorem repairUrl_eq_verdict
    (repair : SourceRepair)
    (url : Text) :
    repair.repairUrl url =
      ((repair.reading? url).map repair.verdict).getD .keep := by
  rw [repairUrl, reading?]
  cases url.findFirst? StandInUrl.reader with
  | some o => exact repairStandIn_eq_verdict repair o.value
  | none => cases BlobUrl.ofText? url <;> rfl

theorem readStandIn_cases
    (repair : SourceRepair)
    (url : StandInUrl) :
    (∃ behind,
      (repair.readStandIn url).form = .standInPath ∧
        ((repair.readStandIn url).branch,
            (repair.readStandIn url).path) =
          repair.branchAndPath behind) ∨
      ∃ address,
        (repair.readStandIn url).form = .standInName ∧
          (repair.readStandIn url).branch =
            repair.template.branch ∧
          (repair.readStandIn url).path =
            DocPath.fileName address := by
  rw [readStandIn]
  rcases splitFragment url.rest with ⟨address, fragment⟩
  dsimp only
  cases Text.cutAt? "/blob/".toList address with
  | some parts => exact Or.inl ⟨parts.2, rfl, rfl⟩
  | none => exact Or.inr ⟨address, rfl, rfl, rfl⟩

theorem reading?_cases
    (h : repair.reading? url = some r) :
    (∃ standIn, r = repair.readStandIn standIn) ∨
      ∃ blob, BlobUrl.ofText? url = some blob ∧
        r = ⟨blob, .blob⟩ := by
  rw [reading?] at h
  split at h
  · next o _ => exact Or.inl ⟨o.value, (Option.some.inj h).symm⟩
  · rcases Option.map_eq_some_iff.mp h with ⟨blob, hBlob, hEq⟩
    exact Or.inr ⟨blob, hBlob, hEq.symm⟩

/- A name is all of its path, on the template's own branch. -/
theorem of_reading?_standInName
    (h : repair.reading? url = some r)
    (hForm : r.form = .standInName) :
    r.branch = repair.template.branch ∧ '/' ∉ r.path := by
  rcases reading?_cases h with ⟨standIn, rfl⟩ | ⟨blob, -, rfl⟩
  · rcases repair.readStandIn_cases standIn with
      ⟨behind, hPath, -⟩ | ⟨address, -, hBranch, hName⟩
    · rw [hPath] at hForm
      cases hForm
    · rw [hName]
      exact ⟨hBranch, Text.not_mem_afterLast '/' address⟩
  · cases hForm

/- A branch is one segment, if the template's own is. -/
theorem slash_not_mem_branch
    (hOwn : '/' ∉ repair.template.branch)
    (h : repair.reading? url = some r) : '/' ∉ r.branch := by
  rcases reading?_cases h with ⟨standIn, rfl⟩ | ⟨blob, hBlob, rfl⟩
  · rcases repair.readStandIn_cases standIn with
      ⟨behind, -, hParts⟩ | ⟨address, -, hBranch, -⟩
    · rw [branchAndPath, Text.cutAtChar?] at hParts
      split at hParts
      · rw [(Prod.mk.inj hParts).1]
        exact hOwn
      · rw [(Prod.mk.inj hParts).1]
        exact Text.not_mem_takeWhile_ne '/' behind
    · rw [hBranch]
      exact hOwn
  · rcases BlobUrl.exists_parts_of_ofText? hBlob with
      ⟨front, owner, name, rest, -, -, -, hBranch, -⟩
    exact hBranch

------------------------------------------------------------
-- Whereabouts
------------------------------------------------------------

/-
  Whether a path has the extension of a source, but leads to
  no file, and no file in the index is called like it.
-/
structure IsNowhere
    (repair : SourceRepair)
    (path : Text) : Prop where
  source : repair.isSource path = true
  absent :
    repair.checkout.isFile (FilePath.join ['.'] path) = false
  unindexed :
    repair.index.path? (DocPath.fileName path) = none

theorem locate_eq_notSource_iff
    {path : Text} :
    repair.locate path = .notSource ↔
      repair.isSource (PercentCode.decode path) = false := by
  rw [locate]
  cases repair.isSource (PercentCode.decode path) with
  | false => simp
  | true =>
      simp only [Bool.not_true, Bool.false_eq_true, if_false]
      split_ifs
      · simp
      · split <;> simp

theorem locate_eq_missing_iff
    {path : Text} :
    repair.locate path = .missing ↔
      repair.IsNowhere (PercentCode.decode path) := by
  constructor
  · intro h
    rw [locate] at h
    split_ifs at h with hSource hFile
    split at h
    · cases h
    · next hIndex =>
        exact ⟨by simpa using hSource, by simpa using hFile,
          hIndex⟩
  · rintro ⟨hSource, hFile, hIndex⟩
    simp [locate, hSource, hFile, hIndex]

/- A file elsewhere is the one in the index. -/
theorem path?_of_locate_eq_elsewhere
    {path found : Text}
    (h : repair.locate path = .elsewhere found) :
    repair.index.path?
        (DocPath.fileName (PercentCode.decode path)) =
      some found := by
  rw [locate] at h
  split_ifs at h
  split at h
  · next hIndex =>
      cases h
      exact hIndex
  · cases h

/- What codes stand for is all that counts. -/
theorem locate_congr
    {p q : Text}
    (h : PercentCode.decode p = PercentCode.decode q) :
    repair.locate p = repair.locate q := by
  rw [locate, locate, h]

------------------------------------------------------------
-- Verdicts
------------------------------------------------------------

/-
  Kept is a blob URL whose file is there, and what names no
  source, unless it is a stand-in with a whole path.
-/
theorem verdict_eq_keep_iff :
    repair.verdict r = .keep ↔
      (r.form = .blob ∧ repair.locate r.path = .present) ∨
        (r.form ≠ .standInPath ∧
          repair.locate r.path = .notSource) := by
  rw [verdict]
  cases r.form with
  | blob =>
      rw [repairBlob]
      cases repair.locate r.path <;> simp
  | standInPath =>
      rw [repairStandInBlob]
      cases repair.locate r.path <;> simp
  | standInName =>
      rw [repairStandInName]
      by_cases hSource : repair.locate r.path = .notSource
      · simp [hSource]
      · rw [if_neg hSource]
        cases repair.index.path? r.path <;> simp [hSource]

/- Removed is what names a source that is not found. -/
theorem verdict_eq_remove_iff :
    repair.verdict r = .remove ↔
      if r.form = .standInName then
        repair.locate r.path ≠ .notSource ∧
          repair.index.path? r.path = none
      else repair.locate r.path = .missing := by
  rw [verdict]
  cases r.form with
  | blob =>
      rw [repairBlob]
      cases repair.locate r.path <;> simp
  | standInPath =>
      rw [repairStandInBlob]
      cases repair.locate r.path <;> simp
  | standInName =>
      rw [repairStandInName]
      by_cases hSource : repair.locate r.path = .notSource
      · simp [hSource]
      · rw [if_neg hSource]
        cases repair.index.path? r.path <;> simp [hSource]

/-
  Whether a path is one that a URL may be built for: it is of
  a file in the index that is called like what was read, or
  it is what was read and need not be looked for.
-/
def MayBuild
    (repair : SourceRepair)
    (r : UrlReading)
    (path : Text) : Prop :=
  (∃ name,
    (name = r.path ∨
      name = DocPath.fileName (PercentCode.decode r.path)) ∧
    repair.index.path? name = some path) ∨
  path = r.path ∧
    (repair.locate path = .present ∨
      repair.locate path = .notSource)

theorem mayBuild_of_locate_eq_elsewhere
    {found : Text}
    (h : repair.locate r.path = .elsewhere found) :
    repair.MayBuild r found :=
  Or.inl ⟨_, Or.inr rfl, path?_of_locate_eq_elsewhere h⟩

/-
  A reading is replaced by what is built for such a path; a
  name has to be on the branch that it is read to be on.
-/
theorem exists_of_verdict_eq_replace
    {v : Text}
    (hBranch :
      r.form = .standInName → r.branch = repair.template.branch)
    (h : repair.verdict r = .replace v) :
    ∃ path,
      v = repair.rebuild r.branch path r.fragment ∧
        repair.MayBuild r path := by
  rw [verdict] at h
  cases hForm : r.form with
  | blob =>
      simp only [hForm, repairBlob] at h
      split at h
      · next found hFound =>
          cases h
          exact ⟨found, rfl, mayBuild_of_locate_eq_elsewhere hFound⟩
      all_goals cases h
  | standInPath =>
      simp only [hForm, repairStandInBlob] at h
      split at h
      · next found hFound =>
          cases h
          exact ⟨found, rfl, mayBuild_of_locate_eq_elsewhere hFound⟩
      · cases h
      · next hThere =>
          cases h
          exact ⟨r.path, rfl, Or.inr ⟨rfl, Or.inl hThere⟩⟩
      · next hOther =>
          cases h
          exact ⟨r.path, rfl, Or.inr ⟨rfl, Or.inr hOther⟩⟩
  | standInName =>
      simp only [hForm, repairStandInName] at h
      split_ifs at h
      split at h
      · next found hFound =>
          cases h
          rw [← hBranch hForm]
          exact ⟨found, rfl, Or.inl ⟨r.path, Or.inl rfl, hFound⟩⟩
      · cases h

/- So is a URL, as it is read. -/
theorem exists_of_repairUrl_eq_replace
    {v : Text}
    (h : repair.repairUrl url = .replace v) :
    ∃ r path,
      repair.reading? url = some r ∧
      v = repair.rebuild r.branch path r.fragment ∧
      repair.MayBuild r path := by
  rw [repairUrl_eq_verdict] at h
  cases hReading : repair.reading? url with
  | none =>
      rw [hReading] at h
      cases h
  | some r =>
      rw [hReading, Option.map_some, Option.getD_some] at h
      rcases exists_of_verdict_eq_replace
          (fun hForm => (of_reading?_standInName hReading hForm).1)
          h with ⟨path, hBuilt, hMay⟩
      exact ⟨r, path, rfl, hBuilt, hMay⟩

end SourceRepair

end SourceDocs
