import SourceDocs.Text.Basic

/-
  Commands of the program, and why arguments may make up
  none.

  Key definitions include:
    * `SourceDocs.RepairMode`
    * `SourceDocs.Command`
    * `SourceDocs.CommandKind`
    * `SourceDocs.NoCommand`
-/

namespace SourceDocs

/- What becomes of documents after their repair. -/
inductive RepairMode where
  /- Documents that change are written where they are. -/
  | inPlace
  /- Documents that would change are only reported. -/
  | check
  /- All documents are written below another folder. -/
  | into (folder : Text)
  deriving DecidableEq, Repr

/- A command with its options. -/
inductive Command where
  | classify (path : Text)
  | extract (isCompact : Bool)
  | info (asJson : Bool)
  | inventory (asJson : Bool)
  | resolve (mode : RepairMode)
  deriving DecidableEq, Repr

/- A command without its options. -/
inductive CommandKind where
  | classify
  | extract
  | info
  | inventory
  | resolve
  deriving DecidableEq, Repr

namespace CommandKind

/- The name of a command. -/
def name : CommandKind → Text
| .classify => "classify".toList
| .extract => "extract".toList
| .info => "info".toList
| .inventory => "inventory".toList
| .resolve => "resolve".toList

/- All commands. -/
def all : List CommandKind :=
  [.classify, .extract, .info, .inventory, .resolve]

/- The command of a name. -/
def ofName? (name : Text) : Option CommandKind :=
  all.find? (·.name == name)

/- The flags of a command. -/
def flags : CommandKind → List Text
| .classify => []
| .extract => ["compact".toList]
| .info => ["json".toList]
| .inventory => ["json".toList]
| .resolve => ["check".toList]

end CommandKind

/- Why arguments make up no command. -/
inductive NoCommand where
  /- Help is asked for. -/
  | helpWanted
  /- The version is asked for. -/
  | versionWanted
  /- There are no arguments. -/
  | nothingGiven
  /- There are flags, but no command. -/
  | commandMissing
  /- A word stands for no command. -/
  | unknownCommand
  /- An argument means nothing in its place. -/
  | unknownArgument
  /- The path to classify is missing. -/
  | pathMissing
  /- An option is given twice, or with one it excludes. -/
  | conflict
  /- The value of an option is missing or empty. -/
  | valueMissing
  /- A flag that takes no value is given one. -/
  | valueRefused
  deriving DecidableEq, Repr

end SourceDocs
