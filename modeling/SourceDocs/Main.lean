import SourceDocs.Command.Arguments
import SourceDocs.Command.Run
import SourceDocs.Command.Usage

/-
  The program: runs the command that its arguments make up
  in the working directory.

  Everything below the working directory is read first. The
  command then says what to print and what the directory
  should hold, and the files that differ are written.
-/

namespace SourceDocs

namespace Main

/- How broken patterns and broken TOML are described. -/
def wording : Wording :=
  ⟨fun _ => "the pattern cannot be read".toList,
    fun _ => "the settings cannot be read\n".toList⟩

/- A text as the system takes it. -/
def path (names : List Text) : String :=
  String.ofList (FilePath.ofComponents (['.'] :: names))

/- Adds what is below a directory to a folder. -/
partial def readBelow
    (names : List Text)
    (root : Folder) : IO Folder := do
  let here := (← IO.FS.realPath (path names))
  let mut folder := root
  for entry in ← here.readDir do
    let inside := names ++ [entry.fileName.toList]
    if ← entry.path.isDir then
      folder ←
        readBelow inside (folder.putAt inside (.folder .empty))
    else
      let octets ← IO.FS.readBinFile entry.path
      let content := Content.ofOctets octets.toList
      folder := folder.putAt inside (.file content)
  return folder

/- The octets of a file. -/
def octetsOf : Content → ByteArray
| .text t => (String.ofList t).toUTF8
| .binary octets => ⟨octets.toArray⟩

/- Writes the files in which a folder differs from before. -/
def writeChanges (before after : Folder) : IO Unit := do
  for (names, content) in after.files do
    if before.get? names ≠ some (.file content) then
      IO.FS.createDirAll (path names.dropLast)
      IO.FS.writeBinFile (path names) (octetsOf content)

/- Runs a command and gives its exit code. -/
def execute (command : Command) : IO UInt32 := do
  let root ← readBelow [] .empty
  let outcome := command.run wording root
  writeChanges root outcome.folder
  IO.print (String.ofList outcome.output)
  IO.eprint (String.ofList outcome.errors)
  return UInt32.ofNat outcome.code

/- Tells why there is no command. -/
def refuse (why : NoCommand) : IO UInt32 := do
  let page := String.ofList (Text.ofLines why.lines)
  if why.isAnswered then IO.print page else IO.eprint page
  return UInt32.ofNat why.code

end Main

end SourceDocs

/- Runs the program. -/
def main (arguments : List String) : IO UInt32 :=
  match
      SourceDocs.Command.ofArguments
        (arguments.map String.toList) with
  | .ok command => SourceDocs.Main.execute command
  | .error why => SourceDocs.Main.refuse why
