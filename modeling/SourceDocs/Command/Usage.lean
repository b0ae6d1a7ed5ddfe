import SourceDocs.Command.Basic
import SourceDocs.Command.Reference

/-
  What is printed where arguments make up no command.

  Key definitions include:
    * `SourceDocs.NoCommand.reason`
    * `SourceDocs.NoCommand.code`
    * `SourceDocs.usagePage`
-/

namespace SourceDocs

/- The uses of the program, one in a line. -/
def usagePage : List Text :=
  "Usage: docmend [--verbose] <COMMAND>".toList :: [] ::
    ProjectState.uses.map fun (use, _) =>
      "    ".toList ++ use.toList

namespace NoCommand

/- The reason in one line. -/
def reason : NoCommand → Text
| .helpWanted => []
| .versionWanted => []
| .nothingGiven => []
| .commandMissing => "a command is missing".toList
| .unknownCommand => "there is no such command".toList
| .unknownArgument => "unexpected argument".toList
| .pathMissing => "the path to classify is missing".toList
| .conflict => "options exclude each other".toList
| .valueMissing => "a value is missing".toList
| .valueRefused => "a flag takes no value".toList

/- Whether what was asked for has been given. -/
def isAnswered : NoCommand → Bool
| .helpWanted => true
| .versionWanted => true
| _ => false

/- The exit code. -/
def code (why : NoCommand) : Nat :=
  if why.isAnswered then 0 else 2

/- The lines to print. -/
def lines (why : NoCommand) : List Text :=
  if why = .versionWanted then ["docmend ".toList ++ version]
  else if why.reason = [] then usagePage
  else ("error: ".toList ++ why.reason) :: [] :: usagePage

end NoCommand

end SourceDocs
