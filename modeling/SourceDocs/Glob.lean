import SourceDocs.Text.Basic

/-
  Globs, which describe the names of files and folders.

  Key definitions include:
    * `SourceDocs.Glob`
    * `SourceDocs.Glob.ofText`
    * `SourceDocs.Glob.accepts`
    * `SourceDocs.GlobFault.message`

  Neither slashes nor leading dots are special for `*` and
  `?`, and case matters.
-/

------------------------------------------------------------
-- Parts
------------------------------------------------------------

namespace SourceDocs

/- Characters from one to another; none if they are swapped. -/
abbrev GlobRange := Char × Char

/- A part of a glob. -/
inductive GlobPart where
  | char (c : Char)
  | anyChar
  | oneOf (rs : List GlobRange)
  | noneOf (rs : List GlobRange)
  /- Any text. -/
  | anyText
  /- Folders with their slashes, or all that is left. -/
  | anyFolders
  deriving DecidableEq, Repr

/- A glob as it was written, and its parts. -/
structure Glob where
  text : Text
  parts : List GlobPart
  deriving DecidableEq, Repr

------------------------------------------------------------
-- Matching
------------------------------------------------------------

namespace GlobPart

/- Whether a character is in one of the ranges. -/
def inRanges
    (rs : List GlobRange)
    (c : Char) : Bool :=
  rs.any fun r => decide (r.1 ≤ c) && decide (c ≤ r.2)

/- Whether a part accepts a single character. -/
def acceptsChar : GlobPart → Char → Bool
| .char d, c => c == d
| .anyChar, _ => true
| .oneOf rs, c => inRanges rs c
| .noneOf rs, c => !inRanges rs c
| .anyText, _ => false
| .anyFolders, _ => false

/- The rests behind the slashes of a text. -/
def behindSlashes : Text → List Text
| [] => []
| c :: cs =>
  if c = '/' then cs :: behindSlashes cs else behindSlashes cs

/- The ends of a text, itself and the empty one included. -/
def suffixes : Text → List Text
| [] => [[]]
| c :: cs => (c :: cs) :: suffixes cs

/- What a part may leave of a text. -/
def rests : GlobPart → Text → List Text
| .anyText, t => suffixes t
| .anyFolders, t => t :: behindSlashes t ++ [[]]
| part, c :: cs => if part.acceptsChar c then [cs] else []
| _, [] => []

/- Whether parts accept a text as a whole. -/
def acceptAll : List GlobPart → Text → Bool
| [], t => t.isEmpty
| part :: parts, t => (part.rests t).any (acceptAll parts)

end GlobPart

/- Whether a glob accepts a name. -/
def Glob.accepts
    (glob : Glob)
    (name : Text) : Bool :=
  GlobPart.acceptAll glob.parts name

------------------------------------------------------------
-- Faults
------------------------------------------------------------

/- What is wrong with a glob. -/
inductive GlobFaultKind where
  /- A square bracket is not closed, or nothing is in it. -/
  | range
  /- Two stars do not stand between slashes. -/
  | folders
  /- There are more than two stars in a row. -/
  | stars
  deriving DecidableEq, Repr

/- A fault, and at which character it was noticed. -/
structure GlobFault where
  position : Nat
  kind : GlobFaultKind
  deriving DecidableEq, Repr

/- What a kind of fault is called. -/
def GlobFaultKind.message : GlobFaultKind → Text
| .range => "invalid range pattern".toList
| .folders =>
  "recursive wildcards must form a single path component".toList
| .stars =>
  "wildcards are either regular `*` or recursive `**`".toList

/- A fault in one line. -/
def GlobFault.message (fault : GlobFault) : Text :=
  "Pattern syntax error near position ".toList ++
    Text.ofNat fault.position ++ ": ".toList ++
    fault.kind.message

------------------------------------------------------------
-- Reading
------------------------------------------------------------

namespace Glob

/- The ranges between square brackets. -/
def ranges : Text → List GlobRange
| a :: '-' :: b :: cs => (a, b) :: ranges cs
| a :: cs => (a, a) :: ranges cs
| [] => []

/-
  The inside of square brackets and what follows them. The
  first character closes no bracket.
-/
def bracketed? : Text → Option (Text × Text)
| c :: cs =>
  (Text.cutAtChar? ']' cs).map fun (inside, rest) =>
    (c :: inside, rest)
| [] => none

/- Reads square brackets behind the opening one. -/
def class? : Text → Option (GlobPart × Text)
| '!' :: t =>
  (bracketed? t).map fun (inside, rest) =>
    (.noneOf (ranges inside), rest)
| t =>
  (bracketed? t).map fun (inside, rest) =>
    (.oneOf (ranges inside), rest)

/-
  Reads stars from a position on, given the character before
  them and the text behind them.
-/
def stars
    (position count : Nat)
    (before : Option Char)
    (t : Text) : Except GlobFault (GlobPart × Text) :=
  if count = 1 then .ok (.anyText, t)
  else if count = 2 then
    if before.all (· == '/') then
      match t with
      | [] => .ok (.anyFolders, [])
      | '/' :: rest => .ok (.anyFolders, rest)
      | _ => .error ⟨position + 2, .folders⟩
    else .error ⟨position - 1, .folders⟩
  else .error ⟨position + 2, .stars⟩

/- Reads a part from a position on. -/
def readPart
    (position : Nat)
    (before : Option Char) :
    Text → Except GlobFault (GlobPart × Text)
| '?' :: t => .ok (.anyChar, t)
| '*' :: t =>
  let (more, rest) := Text.run (· == '*') t
  stars position (more.length + 1) before rest
| '[' :: t =>
  match class? t with
  | some read => .ok read
  | none => .error ⟨position, .range⟩
| c :: t => .ok (.char c, t)
| [] => .error ⟨position, .range⟩

/-
  Reads parts until a text ends. The last character that a
  part covers comes before the next one.
-/
def readFrom
    (whole : Text) :
    Nat → Text → Except GlobFault (List GlobPart)
| _, [] => .ok []
| 0, _ => .ok []
| fuel + 1, t => do
  let position := whole.length - t.length
  let before := (whole.take position).getLast?
  let (part, rest) ← readPart position before t
  let parts ← readFrom whole fuel rest
  return part :: parts

/- The glob that a text describes. -/
def ofText (t : Text) : Except GlobFault Glob := do
  let parts ← readFrom t t.length t
  return ⟨t, parts⟩

end Glob

end SourceDocs
