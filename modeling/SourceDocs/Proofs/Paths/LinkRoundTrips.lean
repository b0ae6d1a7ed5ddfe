import SourceDocs.Proofs.Paths.RelativeLinks

/-
  What a link leads to, read from the document it is in.

  A link leads to its goal, except that spaces are encoded
  behind the directory that both documents share. Decoding
  undoes this where the goal holds no percent sign.

  Key definitions include:
    * `SourceDocs.DocPath.IsSharedDirectory`

  Main results:
    * `SourceDocs.DocPath.isSharedDirectory`
    * `SourceDocs.DocPath.resolve_relativeLink_of_normal`
-/

------------------------------------------------------------
-- Shared Directories
------------------------------------------------------------

namespace SourceDocs

namespace DocPath

/-
  Whether names lead to a directory that two documents are
  both in, and none further down is one of that kind.
-/
structure IsSharedDirectory
    (start goal : Text)
    (shared : List Text) : Prop where
  left : shared <+: directory start
  right : shared <+: directory goal
  deepest :
    ∀ other, other <+: directory start →
      other <+: directory goal → other <+: shared

/- Whatever two lists start with is counted. -/
theorem prefix_take_commonLength
    {cs as bs : List Text}
    (hLeft : cs <+: as)
    (hRight : cs <+: bs) :
    cs <+: as.take (commonLength as bs) := by
  induction cs generalizing as bs with
  | nil => exact List.nil_prefix
  | cons c cs ih =>
      rcases hLeft with ⟨as', rfl⟩
      rcases hRight with ⟨bs', rfl⟩
      have hRest :
          cs <+:
            (cs ++ as').take
              (commonLength (cs ++ as') (cs ++ bs')) := by
        apply ih
        · exact List.prefix_append cs as'
        · exact List.prefix_append cs bs'
      simpa [commonLength] using hRest

theorem isSharedDirectory (start goal : Text) :
    IsSharedDirectory start goal
      (sharedDirectory start goal) := by
  rcases commonLength_spec (directory start) (directory goal)
    with ⟨-, -, hTake⟩
  constructor
  · exact List.take_prefix _ _
  · unfold sharedDirectory
    rw [hTake]
    exact List.take_prefix _ _
  · intro other hLeft hRight
    exact prefix_take_commonLength hLeft hRight

------------------------------------------------------------
-- Round Trips
------------------------------------------------------------

/-
  A link between normal paths leads to its goal with the
  spaces encoded behind the shared directory, and decoded to
  the goal itself if that holds no percent sign.
-/
theorem resolve_relativeLink_of_normal
    {start goal : Text}
    (hStart : normalize start = start)
    (hGoal : normalize goal = goal) :
    ∃ shared rest,
      IsSharedDirectory start goal shared ∧
      goal = frontOf shared ++ rest ∧
      resolve start (relativeLink start goal none) =
        frontOf shared ++ encodeSpaces rest ∧
      ('%' ∉ goal →
        PercentCode.decode
            (resolve start (relativeLink start goal none)) =
          goal) := by
  rcases resolve_relativeLink_encoded hStart hGoal with
    ⟨rest, hEq, hResolve⟩
  refine ⟨sharedDirectory start goal, rest, ?_, hEq, hResolve,
    ?_⟩
  · exact isSharedDirectory start goal
  · intro hCode
    exact decode_resolve_relativeLink hStart hGoal hCode

theorem resolve_relativeLink_of_normal_spaces :
    let start : Text := "My Docs/A b/C/D.md".toList
    let goal : Text := "My Docs/A b/X y/E f.md".toList
    let found := resolve start (relativeLink start goal none)
    normalize start = start ∧ normalize goal = goal ∧
      '%' ∉ goal ∧
      found = "My Docs/A b/X%20y/E%20f.md".toList ∧
      PercentCode.decode found = goal ∧
      ∃ shared rest,
        IsSharedDirectory start goal shared ∧
        goal = frontOf shared ++ rest ∧
        found = frontOf shared ++ encodeSpaces rest := by
  intro start goal found
  have hStart : normalize start = start := by decide +kernel
  have hGoal : normalize goal = goal := by decide +kernel
  have hCode : '%' ∉ goal := by decide
  rcases resolve_relativeLink_of_normal hStart hGoal with
    ⟨shared, rest, hShared, hEq, hFound, hDecode⟩
  exact ⟨hStart, hGoal, hCode, by decide +kernel,
    hDecode hCode, shared, rest, hShared, hEq, hFound⟩

end DocPath

end SourceDocs
