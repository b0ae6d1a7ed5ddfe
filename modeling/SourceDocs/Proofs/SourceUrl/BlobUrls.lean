import SourceDocs.Proofs.SourceUrl.Templates
import SourceDocs.Proofs.Text.Stretches

/-
  How the URL of a path on a branch is read.

  Where the branch is one segment, reading the URL parts it
  where it was put together. What is read of the path goes
  up to a number sign or a question mark.

  Key definitions include:
    * `SourceDocs.BlobUrl.stretch`

  Main results:
    * `SourceDocs.BlobUrl.exists_parts_of_ofText?`
    * `SourceDocs.BlobUrl.exists_rest_of_ofText?_blobUrl`
    * `SourceDocs.BlobUrl.path_eq_of_ofText?_blobUrl`
-/

------------------------------------------------------------
-- The Parts Of A Blob URL
------------------------------------------------------------

namespace SourceDocs

namespace BlobUrl

open HostedRepository (blobMark)

/- A path up to where a query or a fragment would start. -/
def stretch (path : Text) : Text :=
  path.takeWhile fun c => c != '#' && c != '?'

theorem slash_not_mem_of_isNameChar
    {x : Text}
    (hx : ∀ c ∈ x, isNameChar c = true) : '/' ∉ x := by
  intro hSlash
  exact absurd (hx '/' hSlash) (by decide)

/- The parts of a URL, read one after another. -/
theorem exists_runs_of_ofText?
    {t : Text}
    {url : BlobUrl}
    (h : ofText? t = some url) :
    ∃ front owner name rest,
      hosted? t =
        some (front,
          owner ++ '/' :: (name ++ (blobMark ++
            (url.branch ++ '/' :: (url.path ++ rest))))) ∧
      (∀ c ∈ owner, isNameChar c = true) ∧
      (∀ c ∈ name, isNameChar c = true) ∧
      (∀ c ∈ url.branch, isNameChar c = true) ∧
      (∀ c ∈ url.path, isPathChar c = true) ∧
      fragment? (skipQuery rest) = some url.fragment := by
  simp only [ofText?, bind, Option.bind_eq_some_iff,
    Prod.exists] at h
  rcases h with ⟨front, t₁, hHost, owner, t₂, hOwner, t₃,
    hSlash, name, t₄, hName, t₅, hBlob, branch, t₆, hBranch,
    t₇, hSlash', path, rest, hPath, fragment, hFragment, hUrl⟩
  cases hUrl
  rcases Text.eq_append_of_run? hOwner with ⟨rfl, hOwnerChars⟩
  cases Text.eq_append_of_after? hSlash
  rcases Text.eq_append_of_run? hName with ⟨rfl, hNameChars⟩
  cases Text.eq_append_of_after? hBlob
  rcases Text.eq_append_of_run? hBranch with ⟨rfl, hBranchChars⟩
  cases Text.eq_append_of_after? hSlash'
  rcases Text.eq_append_of_run? hPath with ⟨rfl, hPathChars⟩
  exact ⟨front, owner, name, rest, hHost, hOwnerChars,
    hNameChars, hBranchChars, hPathChars, hFragment⟩

/- All of the parts up to the path are segments. -/
theorem exists_parts_of_ofText?
    {t : Text}
    {url : BlobUrl}
    (h : ofText? t = some url) :
    ∃ front owner name rest,
      hosted? t =
        some (front,
          owner ++ '/' :: (name ++ (blobMark ++
            (url.branch ++ '/' :: (url.path ++ rest))))) ∧
      '/' ∉ owner ∧ '/' ∉ name ∧ '/' ∉ url.branch ∧
      (∀ c ∈ url.path, isPathChar c = true) ∧
      fragment? (skipQuery rest) = some url.fragment := by
  rcases exists_runs_of_ofText? h with
    ⟨front, owner, name, rest, hHost, hOwner, hName, hBranch,
      hPath, hFragment⟩
  exact ⟨front, owner, name, rest, hHost,
    slash_not_mem_of_isNameChar hOwner,
    slash_not_mem_of_isNameChar hName,
    slash_not_mem_of_isNameChar hBranch, hPath, hFragment⟩

/- What follows the path starts with one of two marks. -/
theorem stretch_eq_nil_of_fragment?
    {rest : Text}
    {fragment : Option Text}
    (h : fragment? (skipQuery rest) = some fragment) :
    stretch rest = [] := by
  cases rest with
  | nil => rfl
  | cons c rest =>
      by_cases hHash : c = '#'
      · simp [stretch, hHash]
      by_cases hQuery : c = '?'
      · simp [stretch, hQuery]
      · simp [skipQuery, fragment?, hHash, hQuery] at h

theorem stretch_append
    {path : Text}
    (hPath : ∀ c ∈ path, isPathChar c = true)
    (rest : Text) :
    stretch (path ++ rest) = path ++ stretch rest := by
  rw [stretch, List.takeWhile_append_of_pos, stretch]
  intro c hc
  have hChar := hPath c hc
  simp only [isPathChar, isQueryChar, Bool.and_eq_true] at hChar
  simp [hChar]

------------------------------------------------------------
-- Reading What Was Built
------------------------------------------------------------

theorem hosted?_blobUrl
    (repository : HostedRepository)
    (branch path : Text) :
    hosted? (repository.blobUrl branch path) =
      some (HostedRepository.host,
        repository.owner ++ '/' :: (repository.name ++
          (blobMark ++ (branch ++ '/' :: path)))) := by
  rw [HostedRepository.blobUrl, HostedRepository.address,
    HostedRepository.place, List.append_assoc,
    List.append_assoc, List.cons_append]
  rfl

/- What is read of a URL behind its branch, and what is left. -/
theorem exists_rest_of_ofText?_blobUrl
    {repository : HostedRepository}
    {branch path : Text}
    {url : BlobUrl}
    (hBranch : '/' ∉ branch)
    (h : ofText? (repository.blobUrl branch path) = some url) :
    ∃ rest,
      url.branch = branch ∧ path = url.path ++ rest ∧
      (∀ c ∈ url.path, isPathChar c = true) ∧
      fragment? (skipQuery rest) = some url.fragment := by
  rcases exists_parts_of_ofText? h with
    ⟨front, owner, name, rest, hHost, hOwner, hName, hUrl,
      hPath, hFragment⟩
  rw [hosted?_blobUrl, Option.some.injEq, Prod.mk.injEq]
    at hHost
  rcases Text.append_mark_inj repository.ownerNamed.slash
    hOwner hHost.2 with ⟨-, hBehind⟩
  rcases Text.append_mark_inj repository.nameNamed.slash
    hName hBehind with ⟨-, hBehind⟩
  have hMarks := List.append_cancel_left
    (hBehind : "blob/".toList ++ _ = "blob/".toList ++ _)
  rcases Text.append_mark_inj hBranch hUrl hMarks with
    ⟨rfl, rfl⟩
  exact ⟨rest, rfl, rfl, hPath, hFragment⟩

/-
  The path that is read of a URL is the stretch of its path,
  and the branch is the branch.
-/
theorem path_eq_of_ofText?_blobUrl
    {repository : HostedRepository}
    {branch path : Text}
    {url : BlobUrl}
    (hBranch : '/' ∉ branch)
    (h : ofText? (repository.blobUrl branch path) = some url) :
    url.branch = branch ∧ url.path = stretch path := by
  rcases exists_rest_of_ofText?_blobUrl hBranch h with
    ⟨rest, rfl, rfl, hPath, hFragment⟩
  rw [stretch_append hPath, stretch_eq_nil_of_fragment? hFragment,
    List.append_nil]
  exact ⟨rfl, rfl⟩

end BlobUrl

end SourceDocs
