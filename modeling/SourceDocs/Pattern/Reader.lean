import SourceDocs.Pattern.Bracketed

/-
  The pattern that a text describes.

  Key definitions include:
    * `SourceDocs.OpenGroup`
    * `SourceDocs.Pattern.ofText?`

  A text describes no pattern if a bracket has no partner, a
  repetition has nothing to repeat or the wrong bounds, an
  escape means nothing, or the pattern asks for more than
  single steps along a text: references back, looks ahead.
-/

------------------------------------------------------------
-- Open Groups
------------------------------------------------------------

namespace SourceDocs

/-
  A group that is not closed yet: the flags to go back to,
  the branches before the last one, and the parts of that,
  last first. A part without a pattern sets flags.
-/
structure OpenGroup where
  flags : Flags
  branches : Option Pattern
  parts : List (Option Pattern)

namespace OpenGroup

/- The group that has just been opened. -/
def start (flags : Flags) : OpenGroup :=
  ⟨flags, none, []⟩

/- The group with one more part. -/
def push
    (group : OpenGroup)
    (part : Option Pattern) : OpenGroup :=
  { group with parts := part :: group.parts }

/- The pattern of parts that are given last first. -/
def sequence (parts : List (Option Pattern)) : Pattern :=
  parts.foldl
    (fun rest part => (part.getD .empty).andThen rest) .empty

/- The pattern of all the branches. -/
def pattern (group : OpenGroup) : Pattern :=
  match group.branches with
  | none => sequence group.parts
  | some before => .either before (sequence group.parts)

/- The group at the start of its next branch. -/
def nextBranch (group : OpenGroup) : OpenGroup :=
  { group with branches := some group.pattern, parts := [] }

/- The group with its last part repeated. -/
def repeat?
    (group : OpenGroup)
    (least : Nat)
    (most : Option Nat) : Option OpenGroup :=
  match group.parts with
  | some a :: parts =>
    some
      { group with parts := some (.rounds a least most) :: parts }
  | _ => none

end OpenGroup

------------------------------------------------------------
-- Repetitions
------------------------------------------------------------

namespace Pattern

/- A text without the mark for as few rounds as possible. -/
def dropLazyMark : Text → Text
| '?' :: t => t
| t => t

/- A number of rounds, blanks around it allowed. -/
def roundCount? (t : Text) : Option Nat :=
  let digits := Text.trim t
  if digits ≠ [] ∧ digits.all isAsciiDigit then
    let n := Nat.ofDigitChars 10 digits 0
    if n < Nat.pow 2 32 then some n else none
  else none

/- The bounds that stand between braces. -/
def bounds? (inside : Text) : Option (Nat × Option Nat) :=
  match Text.cutAtChar? ',' inside with
  | none => (roundCount? inside).map fun n => (n, some n)
  | some (least, []) => (roundCount? least).map (·, none)
  | some (least, most) =>
    match roundCount? least, roundCount? most with
    | some m, some n => if m ≤ n then some (m, some n) else none
    | _, _ => none

------------------------------------------------------------
-- Groups
------------------------------------------------------------

/- What an opening bracket does. -/
inductive Opening where
  /- It sets flags for the rest of the group around it. -/
  | setting (flags : Flags)
  /- It opens a group under flags, perhaps with a name. -/
  | group (flags : Flags) (name : Option Text)

/- The name of a group. -/
def isGroupName : Text → Bool
| [] => false
| c :: cs =>
  (isAlphabetic c || c == '_') &&
    cs.all fun d =>
      isAlphanumeric d || ['_', '.', '[', ']'].contains d

/- Reads the name of a group. -/
def namedGroup?
    (flags : Flags)
    (t : Text) : Option (Opening × Text) :=
  (Text.cutAtChar? '>' t).bind fun (name, rest) =>
    if isGroupName name then
      some (.group flags (some name), rest)
    else none

/- Reads flags for a group or for what follows. -/
def flagGroup?
    (flags : Flags)
    (t : Text) : Option (Opening × Text) :=
  (FlagChange.read t).bind fun (change, mark, rest) =>
    let changed := flags.apply change
    if mark = ':' then some (.group changed none, rest)
    else if change = [] then none
    else some (.setting changed, rest)

/- Reads what follows an opening bracket. -/
def opening?
    (flags : Flags)
    (t : Text) : Option (Opening × Text) :=
  match flags.skip t with
  | '?' :: '=' :: _ => none
  | '?' :: '!' :: _ => none
  | '?' :: '<' :: '=' :: _ => none
  | '?' :: '<' :: '!' :: _ => none
  | '?' :: 'P' :: '<' :: rest => namedGroup? flags rest
  | '?' :: '<' :: rest => namedGroup? flags rest
  | '?' :: rest => flagGroup? flags rest
  | rest => some (.group flags none, rest)

------------------------------------------------------------
-- Reading
------------------------------------------------------------

/- What a dot matches. Without Unicode it may not be used. -/
def dot? (flags : Flags) : Option Pattern :=
  let all := CharSet.all .unicode
  let ends :=
    if flags.returns then CharSet.ofList ['\r', '\n']
    else CharSet.single '\n'
  if flags.known = .ascii then none
  else if flags.dotAll then some (.one all)
  else some (.one (.minus all ends))

/- The anchor at the start of a text or a line. -/
def startAnchor (flags : Flags) : Pattern :=
  .check
    (if flags.lines then .lineStart flags.returns
     else .textStart)

/- The anchor at the end of a text or a line. -/
def endAnchor (flags : Flags) : Pattern :=
  .check
    (if flags.lines then .lineEnd flags.returns
     else .textEnd)

/- Reads a part that needs nothing in front of it. -/
def readPart?
    (flags : Flags) : Text → Option (Pattern × Text)
| [] => none
| '[' :: t =>
  (OpenClass.read? flags t).map fun (s, rest) =>
    (.one s, rest)
| '.' :: t => (dot? flags).map (·, t)
| '^' :: t => some (startAnchor flags, t)
| '$' :: t => some (endAnchor flags, t)
| t =>
  (OpenClass.readPiece? flags t).bind fun (piece, rest) =>
    (piece.pattern? flags).map (·, rest)

/- Reads the bounds of a repetition behind a brace. -/
def readBounds?
    (flags : Flags)
    (t : Text) : Option ((Nat × Option Nat) × Text) :=
  (flags.braced t).bind fun (inside, rest) =>
    (bounds? inside).map (·, dropLazyMark (flags.skip rest))

/-
  Reads on in a group that stands in other open ones, with
  the names that groups have taken. Each step takes a
  character, so `fuel` is the length of the text at most.
-/
def readFrom :
    Nat → Flags → List Text → OpenGroup → List OpenGroup →
      Text → Option Pattern
| 0, _, _, _, _, _ => none
| fuel + 1, flags, names, here, outer, t =>
  match flags.skip t with
  | [] => if outer.isEmpty then some here.pattern else none
  | '(' :: rest => do
    match ← opening? flags rest with
    | (.setting changed, rest) =>
      readFrom fuel changed names (here.push none) outer rest
    | (.group inner name, rest) =>
      if name.any names.contains then none
      else
        readFrom fuel inner (name.toList ++ names)
          (OpenGroup.start flags) (here :: outer) rest
  | ')' :: rest =>
    match outer with
    | [] => none
    | next :: outer =>
      readFrom fuel here.flags names
        (next.push (some here.pattern)) outer rest
  | '|' :: rest =>
    readFrom fuel flags names here.nextBranch outer rest
  | '?' :: rest => do
    let group ← here.repeat? 0 (some 1)
    readFrom fuel flags names group outer (dropLazyMark rest)
  | '*' :: rest => do
    let group ← here.repeat? 0 none
    readFrom fuel flags names group outer (dropLazyMark rest)
  | '+' :: rest => do
    let group ← here.repeat? 1 none
    readFrom fuel flags names group outer (dropLazyMark rest)
  | '\x7b' :: rest => do
    let ((least, most), rest) ← readBounds? flags rest
    let group ← here.repeat? least most
    readFrom fuel flags names group outer rest
  | t => do
    let (part, rest) ← readPart? flags t
    readFrom fuel flags names (here.push (some part)) outer
      rest

/- The pattern of a text, unless it grows too large. -/
def ofText? (t : Text) : Option Pattern :=
  (readFrom (t.length + 1) .start []
    (OpenGroup.start .start) [] t).filter
    (·.unfoldedSize ≤ sizeLimit)

end Pattern

end SourceDocs
