import SourceDocs.Failure.Diagnostic
import SourceDocs.Files.Access

/-
  What a command does: what it prints, the exit code it ends
  with, and the files it leaves behind.

  Key definitions include:
    * `SourceDocs.Outcome`
    * `SourceDocs.Outcome.success`
    * `SourceDocs.Outcome.ofFailure`
-/

namespace SourceDocs

/- What a command does. -/
structure Outcome where
  code : Nat
  output : Text
  errors : Text
  folder : Folder
  deriving DecidableEq, Repr

namespace Outcome

/- A command that has done its work. -/
def success
    (folder : Folder)
    (output errors : Text) : Outcome :=
  ⟨0, output, errors, folder⟩

/- A command that a failure has stopped. -/
def ofFailure
    (folder : Folder)
    (output : Text)
    (failure : Failure) : Outcome :=
  ⟨2, output, failure.printed, folder⟩

/- A command that stops with its first failure. -/
def ofExcept
    (folder : Folder) :
    Except Failure Outcome → Outcome
| .ok outcome => outcome
| .error failure => ofFailure folder [] failure

end Outcome

end SourceDocs
