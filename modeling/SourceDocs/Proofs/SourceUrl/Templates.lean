import SourceDocs.Proofs.Text.Replacing
import SourceDocs.SourceUrl.Address
import SourceDocs.SourceUrl.Template

/-
  What the default format makes of a repository, a branch
  and a path.

  The marks of the format are filled in one after another,
  each in a text that may hold what was filled in before. An
  owner and a name hold no brace, so nothing is filled into
  them; a branch must not hold the mark of the path.

  Key definitions include:
    * `SourceDocs.HostedRepository`
    * `SourceDocs.HostedRepository.template`
    * `SourceDocs.HostedRepository.blobUrl`

  Main results:
    * `SourceDocs.HostedRepository.buildOn_template`
    * `SourceDocs.HostedRepository.build_template`
-/

------------------------------------------------------------
-- Repositories On The Host
------------------------------------------------------------

namespace SourceDocs

/- What an owner or a repository can be called. -/
structure IsRepositoryName (t : Text) : Prop where
  ne_nil : t ≠ []
  slash : '/' ∉ t
  brace : '\x7b' ∉ t

instance (t : Text) : Decidable (IsRepositoryName t) :=
  decidable_of_iff
    (t ≠ [] ∧ '/' ∉ t ∧ '\x7b' ∉ t)
    ⟨fun ⟨hNil, hSlash, hBrace⟩ => ⟨hNil, hSlash, hBrace⟩,
      fun ⟨hNil, hSlash, hBrace⟩ => ⟨hNil, hSlash, hBrace⟩⟩

/- A repository: who owns it and what it is called. -/
structure HostedRepository where
  owner : Text
  name : Text
  ownerNamed : IsRepositoryName owner
  nameNamed : IsRepositoryName name

namespace HostedRepository

/- Where the host is. -/
def host : Text := "https://github.com/".toList

/- What stands before the branch in a URL. -/
def blobMark : Text := "/blob/".toList

/- The address behind the host. -/
def place (repository : HostedRepository) : Text :=
  repository.owner ++ '/' :: repository.name

/- The address of a repository. -/
def address (repository : HostedRepository) : Text :=
  host ++ repository.place

/- The template of its URLs that settings give by default. -/
def template
    (repository : HostedRepository)
    (branch : Text) : UrlTemplate :=
  .ofAddress repository.address branch UrlTemplate.defaultFormat

/- The URL of a path on a branch. -/
def blobUrl
    (repository : HostedRepository)
    (branch path : Text) : Text :=
  repository.address ++ (blobMark ++ (branch ++ '/' :: path))

/- An address does not end in a slash. -/
theorem exists_address_eq_concat
    (repository : HostedRepository) :
    ∃ front c, repository.address = front ++ [c] ∧ c ≠ '/' := by
  rcases repository with ⟨owner, name, hOwner, hName⟩
  rcases List.eq_nil_or_concat' name with rfl | ⟨front, c, rfl⟩
  · exact absurd rfl hName.ne_nil
  · refine ⟨host ++ (owner ++ '/' :: front), c, ?_, ?_⟩
    · rw [address, place, List.append_assoc, List.append_assoc,
        List.cons_append]
    · rintro rfl
      exact hName.slash
        (List.mem_append_right front (List.mem_singleton_self _))

/- So the template has the whole address. -/
theorem template_repository
    (repository : HostedRepository)
    (branch : Text) :
    (repository.template branch).repository =
      repository.address := by
  rcases repository.exists_address_eq_concat with
    ⟨front, c, hEq, hLast⟩
  rw [template, UrlTemplate.ofAddress, hEq]
  exact Text.dropEndWhile_concat_of_neg (by simpa using hLast) front

theorem brace_not_mem_address
    (repository : HostedRepository) :
    '\x7b' ∉ repository.address := by
  rw [address, place, List.mem_append, List.mem_append,
    List.mem_cons, not_or, not_or, not_or]
  exact ⟨by decide, repository.ownerNamed.brace, by decide,
    repository.nameNamed.brace⟩

end HostedRepository

------------------------------------------------------------
-- The Default Format
------------------------------------------------------------

namespace UrlTemplate

open HostedRepository (blobMark)

/- It has no place for a line. -/
theorem fillLine_defaultFormat (line : Option Nat) :
    fillLine defaultFormat line = defaultFormat := by
  cases line <;> rfl

theorem replaceAll_repositoryMark (address : Text) :
    Text.replaceAll repositoryMark address defaultFormat =
      address ++ (blobMark ++ (branchMark ++ '/' :: pathMark)) :=
  Text.replaceAll_mark_append (by decide) address
    (blobMark ++ (branchMark ++ '/' :: pathMark))

/- The branch is filled in behind a text without braces. -/
theorem replaceAll_branchMark
    {address : Text}
    (hAddress : '\x7b' ∉ address)
    (branch : Text) :
    Text.replaceAll branchMark branch
        (address ++
          (blobMark ++ (branchMark ++ '/' :: pathMark))) =
      address ++ (blobMark ++ (branch ++ '/' :: pathMark)) := by
  have hBrace : branchMark.head? = some '\x7b' := rfl
  have hBlob : '\x7b' ∉ blobMark := by decide
  have hRest :
      Text.replaceAll branchMark branch ('/' :: pathMark) =
        '/' :: pathMark := rfl
  rw [Text.replaceAll_append_of_not_mem hBrace hAddress,
    Text.replaceAll_append_of_not_mem hBrace hBlob,
    Text.replaceAll_mark_append (by decide), hRest]

/- So is the path, behind a branch without its mark. -/
theorem replaceAll_pathMark
    {address branch : Text}
    (hAddress : '\x7b' ∉ address)
    (hBranch : ¬ pathMark <:+: branch)
    (path : Text) :
    Text.replaceAll pathMark path
        (address ++ (blobMark ++ (branch ++ '/' :: pathMark))) =
      address ++ (blobMark ++ (branch ++ '/' :: path)) := by
  have hBrace : pathMark.head? = some '\x7b' := rfl
  have hBlob : '\x7b' ∉ blobMark := by decide
  have hSlash : '/' ∉ pathMark := by decide
  have hRest :
      Text.replaceAll pathMark path ('/' :: pathMark) =
        '/' :: path := by
    have hFront : '\x7b' ∉ ['/'] := by decide
    have hMark :
        Text.replaceAll pathMark path (pathMark ++ []) =
          path ++ [] :=
      Text.replaceAll_mark_append (by decide) path []
    rw [List.append_nil, List.append_nil] at hMark
    rw [← List.singleton_append,
      Text.replaceAll_append_of_not_mem hBrace hFront, hMark,
      List.singleton_append]
  rw [Text.replaceAll_append_of_not_mem hBrace hAddress,
    Text.replaceAll_append_of_not_mem hBrace hBlob,
    Text.replaceAll_append_of_not_infix hSlash hBranch, hRest]

end UrlTemplate

------------------------------------------------------------
-- URLs
------------------------------------------------------------

/-
  What the default template builds, on any branch and with
  any line: slashes in front of the path are dropped.
-/
theorem HostedRepository.buildOn_template
    (repository : HostedRepository)
    (own : Text)
    {branch : Text}
    (hBranch : ¬ UrlTemplate.pathMark <:+: branch)
    (path : Text)
    (line : Option Nat) :
    (repository.template own).buildOn branch path line =
      repository.blobUrl branch (path.dropWhile (· == '/')) := by
  have hFormat :
      (repository.template own).format =
        UrlTemplate.defaultFormat := rfl
  have hAddress := repository.brace_not_mem_address
  rw [UrlTemplate.buildOn, template_repository, hFormat,
    UrlTemplate.fillLine_defaultFormat,
    UrlTemplate.replaceAll_repositoryMark,
    UrlTemplate.replaceAll_branchMark hAddress,
    UrlTemplate.replaceAll_pathMark hAddress hBranch, blobUrl]

theorem HostedRepository.build_template
    (repository : HostedRepository)
    {branch path : Text}
    (hBranch : ¬ UrlTemplate.pathMark <:+: branch)
    (hPath : path.head? ≠ some '/')
    (line : Option Nat) :
    (repository.template branch).build path line =
      repository.blobUrl branch path := by
  have hBuilt :=
    repository.buildOn_template branch hBranch path line
  rwa [Text.dropWhile_eq_self hPath] at hBuilt

end SourceDocs
