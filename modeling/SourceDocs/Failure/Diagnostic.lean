import SourceDocs.Failure.Basic

/-
  Failures as pages of Markdown: what happened and, where
  the user can do something about it, how to mend it.

  Key definitions include:
    * `SourceDocs.Failure.page`
    * `SourceDocs.Failure.printed`
-/

------------------------------------------------------------
-- Pages
------------------------------------------------------------

namespace SourceDocs

/- The file that holds the settings of a project. -/
def settingsFile : Text :=
  ".docmend.toml".toList

namespace Failure

/- The name of the settings file as code. -/
def quotedSettingsFile : Text :=
  '\x60' :: settingsFile ++ ['\x60']

/- The heading above advice. -/
def fixHeading : Text :=
  "## Fix".toList

/- The command that prints the reference. -/
def infoCommand : Text :=
  "    docmend info".toList

/- A page with a title and a reason. -/
def plainPage (title reason : Text) : Text :=
  Text.ofLines [title, [], reason]

/-
  Advice on the pattern of a rule. A pattern with single
  backslashes was perhaps meant to have double ones.
-/
def ruleAdvice (pattern : Text) : List Text :=
  if Text.holds pattern ['\\'] ∧
      ¬ Text.holds pattern ['\\', '\\'] then
    ["TOML basic strings consume one backslash.".toList,
     "Double it or use a literal string:".toList,
     [],
     "    pattern = '".toList ++ pattern ++ "'".toList]
  else
    ["Patterns are regexes matched against the path ".toList ++
      "relative to the source root.".toList]

/- A failure as a page. -/
def page : Failure → Text
| .badSetting reason =>
  Text.ofLines
    ["# Error: Invalid Config".toList,
     [],
     reason,
     [],
     fixHeading,
     [],
     "Edit ".toList ++ quotedSettingsFile ++
       ". The accepted keys are listed by:".toList,
     [],
     infoCommand]
| .badGlob pattern reason =>
  Text.ofLines
    ["# Error: Invalid Glob".toList,
     [],
     '\x60' :: pattern ++ "` in ".toList ++ quotedSettingsFile ++
       " is not a valid glob: ".toList ++ reason,
     [],
     fixHeading,
     [],
     "Globs match a single file or directory name, ".toList ++
       "e.g. `*.cs` or `Migrations`.".toList]
| .badRule index pattern reason =>
  Text.ofLines
    (["# Error: Invalid Classification Rule".toList,
      [],
      "Rule #".toList ++ Text.ofNat index ++ " in ".toList ++
        quotedSettingsFile ++
        " has a pattern that does not compile:".toList,
      [],
      "    pattern = \"".toList ++ pattern ++ "\"".toList,
      [],
      reason,
      [],
      fixHeading,
      []] ++ ruleAdvice pattern)
| .pathNotFound path =>
  Text.ofLines
    ["# Error: Path Not Found".toList,
     [],
     '\x60' :: path ++ "` does not exist.".toList,
     [],
     fixHeading,
     [],
     "Check `[docs] dir` in ".toList ++ quotedSettingsFile ++
       ", or generate the documentation first.".toList]
| .file reason => plainPage "# Error: I/O".toList reason
| .json reason => plainPage "# Error: JSON Output".toList reason
| .ownPattern reason =>
  plainPage "# Error: Built-in Pattern".toList reason
| .toml reason =>
  Text.ofLines
    ["# Error: Invalid TOML".toList,
     [],
     reason,
     [],
     fixHeading,
     [],
     "Check ".toList ++ quotedSettingsFile ++
       " against the reference:".toList,
     [],
     infoCommand]

------------------------------------------------------------
-- Printing
------------------------------------------------------------

/- A line in bold type, for a terminal. -/
def bold (line : Text) : Text :=
  "\x1b[1m".toList ++ line ++ "\x1b[0m".toList

/- A line as it is printed, headings in bold type. -/
def printedLine (line : Text) : Text :=
  match line with
  | '#' :: _ => bold line
  | _ => line

/- A failure as it is printed. -/
def printed (failure : Failure) : Text :=
  Text.ofLines ((Text.lines failure.page).map printedLine)

end Failure

end SourceDocs
