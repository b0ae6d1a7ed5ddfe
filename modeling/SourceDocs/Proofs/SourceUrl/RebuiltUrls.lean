import SourceDocs.Proofs.Paths.RelativeLinks
import SourceDocs.Proofs.SourceUrl.ClickRepair
import SourceDocs.Proofs.SourceUrl.Rewriting
import SourceDocs.Proofs.SourceUrl.WebLinks

/-
  URLs that are written on the default format.

  What repair builds for a path in a real repository is the
  URL of the path with the fragment behind it. If the path
  leads to a file, or is no source, the URL is kept wherever
  it is written.

  Main results:
    * `SourceDocs.SourceRepair.rebuild_eq`
    * `SourceDocs.SourceRepair.keepsStandIns_blobUrl`
    * `SourceDocs.SourceRepair.settles_rebuild`
-/

------------------------------------------------------------
-- Rebuilding
------------------------------------------------------------

namespace SourceDocs

/- What can be read of a path ends before a fragment. -/
theorem BlobUrl.stretch_append_fragment
    (path : Text)
    (fragment : Option Text) :
    stretch (path ++ DocPath.fragment fragment) =
      stretch path := by
  rcases DocPath.fragment_cases fragment with
    hNone | ⟨anchor, -, hShown⟩
  · rw [hNone, List.append_nil]
  · rw [hShown]
    exact Text.takeWhile_append_cons (by decide) path

/- A fragment behind a path without marks is read back. -/
theorem BlobUrl.fragment_eq_of_ofText?_blobUrl
    {repository : HostedRepository}
    {branch path : Text}
    {fragment : Option Text}
    {url : BlobUrl}
    (hBranch : '/' ∉ branch)
    (hPath : stretch path = path)
    (h :
      ofText?
          (repository.blobUrl branch
            (path ++ DocPath.fragment fragment)) =
        some url) :
    DocPath.fragment url.fragment = DocPath.fragment fragment := by
  have hRead := (path_eq_of_ofText?_blobUrl hBranch h).2
  rcases exists_rest_of_ofText?_blobUrl hBranch h with
    ⟨rest, -, hEq, -, hFragment⟩
  rw [hRead, stretch_append_fragment, hPath,
    List.append_cancel_left_eq] at hEq
  rw [← hEq] at hFragment
  rcases DocPath.fragment_cases fragment with
    hNone | ⟨anchor, hSome, hShown⟩
  · rw [hNone] at hFragment ⊢
    rw [← Option.some.inj hFragment]
    rfl
  · rw [hShown, skipQuery, fragment?] at hFragment
    · split_ifs at hFragment
      rw [← Option.some.inj hFragment, hSome]
    · simp

theorem Link.IsAddress.isQuotable
    {url : Text}
    (h : IsAddress url) : ClickLine.IsQuotable url := by
  rcases isWebTarget_iff.mp h.web with
    ⟨scheme, hScheme, address, rfl, hNil, -⟩
  refine ⟨scheme, hScheme, address, rfl, hNil, fun hMem => ?_⟩
  exact h.free '"' (List.mem_append_right _ hMem) (by decide)

namespace SourceRepair

variable {repair : SourceRepair}
variable {repository : HostedRepository}
variable {own branch path : Text}
variable {fragment : Option Text}

/-
  The default format has no place for a line, and no slashes
  are left in front of a path.
-/
theorem rebuild_eq_dropWhile
    (hTemplate : repair.template = repository.template own)
    (hMark : ¬ UrlTemplate.pathMark <:+: branch)
    (path : Text)
    (fragment : Option Text) :
    repair.rebuild branch path fragment =
      repository.blobUrl branch
        (path.dropWhile (· == '/') ++
          DocPath.fragment fragment) := by
  have hLine : (repository.template own).hasLine = false := rfl
  rw [rebuild, hTemplate, hLine]
  simp only [Bool.false_eq_true, if_false, Option.isSome_none]
  rw [repository.buildOn_template own hMark]
  simp only [HostedRepository.blobUrl, List.append_assoc,
    List.cons_append]

theorem rebuild_eq
    (hTemplate : repair.template = repository.template own)
    (hMark : ¬ UrlTemplate.pathMark <:+: branch)
    (hRelative : path.head? ≠ some '/')
    (fragment : Option Text) :
    repair.rebuild branch path fragment =
      repository.blobUrl branch
        (path ++ DocPath.fragment fragment) := by
  rw [rebuild_eq_dropWhile hTemplate hMark,
    Text.dropWhile_eq_self hRelative]

theorem head?_append_fragment
    (hRelative : path.head? ≠ some '/')
    (fragment : Option Text) :
    (path ++ DocPath.fragment fragment).head? ≠ some '/' := by
  cases path with
  | cons c path => exact hRelative
  | nil =>
      rw [List.nil_append]
      rcases DocPath.fragment_cases fragment with
        hNone | ⟨anchor, -, hShown⟩
      · simp [hNone]
      · simp [hShown]

------------------------------------------------------------
-- Kept URLs
------------------------------------------------------------

/- No stand-in of a file is read in such a URL. -/
theorem keepsStandIns_blobUrl
    (hReal : ¬ repository.IsStandIn)
    (hBranch : '/' ∉ branch)
    (hPath : ¬ schemeEnd <:+: path)
    (hRelative : path.head? ≠ some '/') :
    repair.KeepsStandIns (repository.blobUrl branch path) := by
  rintro ⟨v, x⟩ hFound
  rcases Text.exists_of_mem_seen StandInUrl.reader_steady hFound
    with ⟨u, hSuffix, hRead⟩
  rw [HostedRepository.value_of_reader hReal hBranch
    (fun _ => StandInUrl.reader_eq_none_of_not_infix hPath)
    hRelative hSuffix hRead]
  exact repair.repairStandIn_nil

/-
  Repair settles on what it builds for a path that leads to
  a file or is no source, in click lines, in links and by
  itself.
-/
theorem settles_rebuild
    (hTemplate : repair.template = repository.template own)
    (hReal : ¬ repository.IsStandIn)
    (hBranch : '/' ∉ branch)
    (hMark : ¬ UrlTemplate.pathMark <:+: branch)
    (hRelative : path.head? ≠ some '/')
    (hScheme :
      ¬ schemeEnd <:+: path ++ DocPath.fragment fragment)
    (hThere :
      repair.locate (BlobUrl.stretch path) = .present ∨
        repair.locate (BlobUrl.stretch path) = .notSource)
    (hAddress :
      Link.IsAddress (repair.rebuild branch path fragment)) :
    repair.KeepsQuoted (repair.rebuild branch path fragment) ∧
      repair.KeepsTarget (repair.rebuild branch path fragment) ∧
      repair.IsSettled (repair.rebuild branch path fragment) := by
  have hUrl := rebuild_eq hTemplate hMark hRelative fragment
  have hHead := head?_append_fragment hRelative fragment
  have hStandIns :
      repair.KeepsStandIns
        (repair.rebuild branch path fragment) := by
    rw [hUrl]
    exact keepsStandIns_blobUrl hReal hBranch hScheme hHead
  have hKept :
      repair.repairUrl (repair.rebuild branch path fragment) =
        .keep := by
    rw [← BlobUrl.stretch_append_fragment path fragment] at hThere
    rw [hUrl]
    exact repairUrl_blobUrl hReal repair hBranch hScheme hHead
      hThere
  have hClosed := fun hc => hAddress.free ')' hc (by decide)
  exact ⟨⟨hKept, hAddress.isQuotable⟩,
    ⟨hKept, hAddress.web, hClosed⟩, ⟨hStandIns, hAddress⟩⟩

end SourceRepair

end SourceDocs
