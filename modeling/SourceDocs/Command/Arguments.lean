import SourceDocs.Command.Basic

/-
  The command that arguments make up.

  Key definitions include:
    * `SourceDocs.Word`
    * `SourceDocs.Command.Draft`
    * `SourceDocs.Command.Draft.step`
    * `SourceDocs.Command.ofArguments`

  Arguments are read one after another, and the first that
  does not fit decides why there is no command. What an
  option is given is looked at only when the next option is
  read, or at the end.
-/

------------------------------------------------------------
-- Words
------------------------------------------------------------

namespace SourceDocs

/- An argument by its looks. -/
inductive Word where
  /- Two hyphens, behind which no argument is an option. -/
  | separator
  /- A name behind two hyphens, perhaps with a value. -/
  | long (name : Text) (value : Option Text)
  /- Letters behind a hyphen, of which there is a first. -/
  | short (letter : Char)
  /- Anything else. -/
  | plain
  deriving DecidableEq, Repr

/- The looks of an argument. -/
def Word.ofText : Text → Word
| ['-', '-'] => .separator
| '-' :: '-' :: t =>
  match Text.cutAtChar? '=' t with
  | some (name, value) => .long name (some value)
  | none => .long t none
| '-' :: c :: _ => .short c
| _ => .plain

/- The flag that all commands have. -/
def verboseFlag : Text :=
  "verbose".toList

/- The flag that asks for help. -/
def helpFlag : Text :=
  "help".toList

/- The flag that asks for the version. -/
def versionFlag : Text :=
  "version".toList

/- The option for the folder to write to. -/
def outOption : Text :=
  "out".toList

/- The word that asks for help like a command. -/
def helpCommand : Text :=
  "help".toList

namespace Command

------------------------------------------------------------
-- Drafts
------------------------------------------------------------

/-
  A command of which some arguments are read. An option for
  a folder is `pending` until its value is looked at.
-/
structure Draft where
  kind : CommandKind
  flags : List Text
  out : Option Text
  pending : Option (Option Text)
  path : Option Text
  pastSeparator : Bool
  deriving DecidableEq, Repr

namespace Draft

/- The draft of a command without arguments. -/
def start (kind : CommandKind) : Draft :=
  ⟨kind, [], none, none, none, false⟩

/- Looks at the value of a pending option. -/
def settle (draft : Draft) : Except NoCommand Draft :=
  match draft.pending with
  | none => .ok draft
  | some none => .error .valueMissing
  | some (some value) =>
    if draft.out.isSome then .error .conflict
    else if value = [] then .error .valueMissing
    else .ok { draft with out := some value, pending := none }

/- Adds a flag. -/
def addFlag
    (draft : Draft)
    (name : Text) : Except NoCommand Draft := do
  let settled ← draft.settle
  if name ∈ settled.flags then throw .conflict
  return { settled with flags := name :: settled.flags }

/- Adds a path, if the command takes one more. -/
def addPath
    (draft : Draft)
    (path : Text) : Except NoCommand Draft :=
  if draft.kind = .classify ∧ draft.path.isNone then
    .ok { draft with path := some path }
  else .error .unknownArgument

/- Adds the option for a folder. -/
def addOut
    (draft : Draft)
    (value : Option Text) : Except NoCommand Draft := do
  let settled ← draft.settle
  return { settled with pending := some value }

/- Reads an option, perhaps with a value. -/
def addLong
    (draft : Draft)
    (name : Text)
    (value : Option Text) : Except NoCommand Draft :=
  if draft.kind = .resolve ∧ name = outOption then do
    let added ← draft.addOut value
    if value.isSome then added.settle else return added
  else if name = verboseFlag ∨ name = helpFlag ∨
      name ∈ draft.kind.flags then
    if value.isSome then .error .valueRefused
    else if name = helpFlag then do
      let _ ← draft.settle
      throw .helpWanted
    else draft.addFlag name
  else .error .unknownArgument

/- Reads an argument that is no option. -/
def addPlain
    (draft : Draft)
    (argument : Text) : Except NoCommand Draft :=
  match draft.pastSeparator, draft.pending with
  | false, some none =>
    .ok { draft with pending := some (some argument) }
  | _, _ => draft.addPath argument

/- Reads an argument. -/
def step
    (draft : Draft)
    (argument : Text) : Except NoCommand Draft :=
  if draft.pastSeparator then draft.addPlain argument
  else
    match Word.ofText argument with
    | .separator => .ok { draft with pastSeparator := true }
    | .long name value => draft.addLong name value
    | .short letter =>
      if letter = 'h' then do
        let _ ← draft.settle
        throw .helpWanted
      else .error .unknownArgument
    | .plain => draft.addPlain argument

/- How documents are repaired. -/
def mode (draft : Draft) : Except NoCommand RepairMode :=
  match draft.flags.contains "check".toList, draft.out with
  | true, some _ => .error .conflict
  | true, none => .ok .check
  | false, some folder => .ok (.into folder)
  | false, none => .ok .inPlace

/- The command of a draft that is complete. -/
def finish (draft : Draft) : Except NoCommand Command := do
  let settled ← draft.settle
  let has (flag : String) := settled.flags.contains flag.toList
  match settled.kind with
  | .classify =>
    match settled.path with
    | some path => return .classify path
    | none => throw .pathMissing
  | .extract => return .extract (has "compact")
  | .info => return .info (has "json")
  | .inventory => return .inventory (has "json")
  | .resolve => return .resolve (← settled.mode)

end Draft

------------------------------------------------------------
-- Arguments
------------------------------------------------------------

/- Whether a word stands for a command or for help. -/
def isCommandWord (word : Text) : Bool :=
  word == helpCommand || (CommandKind.ofName? word).isSome

/- What is wrong with words behind the word for help. -/
def helpFault : List Text → NoCommand
| [] => .helpWanted
| [word] =>
  if isCommandWord word then .helpWanted else .unknownCommand
| _ => .unknownCommand

/- What is wrong with a first word behind the separator. -/
def separatedFault : List Text → NoCommand
| [] => .nothingGiven
| word :: _ =>
  if isCommandWord word then .unknownArgument
  else .unknownCommand

/- Reads the arguments behind the name of a command. -/
def ofArgumentsFor
    (kind : CommandKind)
    (arguments : List Text) : Except NoCommand Command := do
  let draft ← arguments.foldlM Draft.step (Draft.start kind)
  draft.finish

/- Reads an option in front of the command. -/
def leadingFault
    (isVerbose : Bool)
    (name : Text)
    (value : Option Text) : Option NoCommand :=
  if name = verboseFlag ∨ name = helpFlag ∨
      name = versionFlag then
    if value.isSome then some .valueRefused
    else if name = helpFlag then some .helpWanted
    else if name = versionFlag then some .versionWanted
    else if isVerbose then some .conflict
    else none
  else some .unknownArgument

/- Reads arguments, behind a flag for verbosity or not. -/
def ofArgumentsFrom
    (isVerbose : Bool) :
    List Text → Except NoCommand Command
| [] =>
  .error (if isVerbose then .commandMissing else .nothingGiven)
| argument :: others =>
  if argument = helpCommand then .error (helpFault others)
  else
    match CommandKind.ofName? argument with
    | some kind => ofArgumentsFor kind others
    | none =>
      match Word.ofText argument with
      | .separator =>
        .error
          (if others = [] ∧ isVerbose then .commandMissing
           else separatedFault others)
      | .long name value =>
        match leadingFault isVerbose name value with
        | some fault => .error fault
        | none => ofArgumentsFrom true others
      | .short letter =>
        .error
          (if letter = 'h' then .helpWanted
           else if letter = 'V' then .versionWanted
           else .unknownArgument)
      | .plain => .error .unknownCommand

/- The command that arguments make up. -/
def ofArguments
    (arguments : List Text) : Except NoCommand Command :=
  ofArgumentsFrom false arguments

end Command

end SourceDocs
