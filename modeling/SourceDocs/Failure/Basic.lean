import SourceDocs.Text.Basic

/-
  What can make a command fail.

  Key definitions include:
    * `SourceDocs.Failure`
    * `SourceDocs.Failure.message`

  Extraction and link repair never fail; only settings and
  the use of files can.
-/

namespace SourceDocs

/- A reason for a command to stop. -/
inductive Failure where
  /- A setting has a value that cannot be used. -/
  | badSetting (reason : Text)
  /- A glob in the settings does not compile. -/
  | badGlob (pattern : Text) (reason : Text)
  /- The pattern of a rule, counted from one, is broken. -/
  | badRule (index : Nat) (pattern : Text) (reason : Text)
  /- A file cannot be read or written. -/
  | file (reason : Text)
  /- A value has no JSON text. -/
  | json (reason : Text)
  /- A folder that the settings name is not there. -/
  | pathNotFound (path : Text)
  /- A pattern of the program itself is broken. -/
  | ownPattern (reason : Text)
  /- The settings are no TOML, or have the wrong shape. -/
  | toml (reason : Text)
  deriving DecidableEq, Repr

namespace Failure

/- A failure in one line. -/
def message : Failure → Text
| .badSetting reason => "invalid config: ".toList ++ reason
| .badGlob pattern reason =>
  "invalid glob `".toList ++ pattern ++ "`: ".toList ++ reason
| .badRule index pattern reason =>
  "classification rule #".toList ++ Text.ofNat index ++
    " has an invalid pattern `".toList ++ pattern ++
    "`: ".toList ++ reason
| .file reason => "io: ".toList ++ reason
| .json reason => "json: ".toList ++ reason
| .pathNotFound path => "path not found: ".toList ++ path
| .ownPattern reason => "regex: ".toList ++ reason
| .toml reason => "toml deserialize: ".toList ++ reason

end Failure

end SourceDocs
