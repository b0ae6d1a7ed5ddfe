import SourceDocs.Pattern.Escape

/-
  Classes in square brackets.

  Key definitions include:
    * `SourceDocs.SetOperator`
    * `SourceDocs.OpenClass`
    * `SourceDocs.OpenClass.read?`
-/

------------------------------------------------------------
-- Classes With A Name
------------------------------------------------------------

namespace SourceDocs

/- The characters of ASCII that print and are no blanks. -/
def CharSet.asciiGraphics : CharSet :=
  .range '!' '~'

/- The classes of ASCII with a name between colons. -/
def asciiClasses : List (String × CharSet) :=
  [("alnum", CharSet.asciiAlphanumerics),
   ("alpha", CharSet.asciiLetters),
   ("ascii", .range (Char.ofNat 0) (Char.ofNat 0x7F)),
   ("blank", CharSet.ofList [' ', '\t']),
   ("cntrl",
     .union (.range (Char.ofNat 0) (Char.ofNat 0x1F))
       (CharSet.single (Char.ofNat 0x7F))),
   ("digit", .range '0' '9'),
   ("graph", CharSet.asciiGraphics),
   ("lower", .range 'a' 'z'),
   ("print", .range ' ' '~'),
   ("punct",
     .minus CharSet.asciiGraphics CharSet.asciiAlphanumerics),
   ("space", CharSet.blanks .ascii),
   ("upper", .range 'A' 'Z'),
   ("word", CharSet.wordCharacters .ascii),
   ("xdigit",
     .union (.range '0' '9')
       (.union (.range 'A' 'F') (.range 'a' 'f')))]

/- The class whose name follows, and whether it is negated. -/
def asciiClass? (t : Text) :
    Option (CharSet × Bool × Text) :=
  match t with
  | ':' :: rest =>
    let negated := rest.head? = some '^'
    let named := if negated then rest.tail else rest
    let (name, rest) := Text.run (· ≠ ':') named
    match rest with
    | ':' :: ']' :: rest =>
      (asciiClasses.find? (·.1.toList == name)).map
        fun (_, s) => (s, negated, rest)
    | _ => none
  | _ => none

------------------------------------------------------------
-- Open Classes
------------------------------------------------------------

/- The operators between the parts of a class. -/
inductive SetOperator where
  | meet
  | minus
  | apart
  deriving DecidableEq, Repr

/- What an operator makes of two sets. -/
def SetOperator.apply : SetOperator → CharSet → CharSet → CharSet
| .meet => CharSet.meet
| .minus => CharSet.minus
| .apart => CharSet.apart

/-
  A class that is not closed yet: the part in front of the
  last operator, and the characters since then.
-/
structure OpenClass where
  negated : Bool
  left : Option (SetOperator × CharSet)
  items : CharSet
  deriving DecidableEq, Repr

namespace OpenClass

/- The class with more characters. -/
def add
    (here : OpenClass)
    (s : CharSet) : OpenClass :=
  { here with items := .union here.items s }

/- What the class has before it is negated. -/
def total
    (here : OpenClass)
    (flags : Flags) : CharSet :=
  match here.left with
  | none => here.items
  | some (op, left) =>
    op.apply (flags.fold left) (flags.fold here.items)

/- The class after an operator. -/
def operate
    (here : OpenClass)
    (flags : Flags)
    (op : SetOperator) : OpenClass :=
  { here with left := some (op, here.total flags), items := .none }

/- The set of a class that is closed. -/
def close?
    (here : OpenClass)
    (flags : Flags) : Option CharSet :=
  flags.finish here.negated (flags.fold (here.total flags))

------------------------------------------------------------
-- Reading
------------------------------------------------------------

/- The hyphens at the front of a class are characters. -/
def leadingHyphens
    (flags : Flags)
    (here : OpenClass) : Nat → Text → OpenClass × Text
| fuel + 1, '-' :: rest =>
  leadingHyphens flags (here.add (CharSet.single '-')) fuel
    (flags.skip rest)
| _, t => (here, t)

/-
  The class that an opening bracket starts. A closing one
  that comes first is a character.
-/
def start
    (flags : Flags)
    (t : Text) : OpenClass × Text :=
  let t := flags.skip t
  let negated := t.head? = some '^'
  let t := if negated then flags.skip t.tail else t
  let fresh : OpenClass := ⟨negated, none, .none⟩
  let (here, rest) := leadingHyphens flags fresh t.length t
  match rest with
  | ']' :: more =>
    if here = fresh then
      (fresh.add (CharSet.single ']'), flags.skip more)
    else (here, rest)
  | _ => (here, rest)

/- Reads a character or an escape. -/
def readPiece?
    (flags : Flags) : Text → Option (Piece × Text)
| [] => none
| '\\' :: t => Piece.ofEscape? flags t
| c :: t => some (.char c false, t)

/- The range from one piece to another. -/
def range?
    (flags : Flags) : Piece → Piece → Option CharSet
| .char a isOctet, .char b isOctet' =>
  match (Piece.char a isOctet).set? flags,
      (Piece.char b isOctet').set? flags with
  | some _, some _ => if a ≤ b then some (.range a b) else none
  | _, _ => none
| _, _ => none

/-
  Reads a piece or a range. A hyphen is no range in front of
  a closing bracket or of another hyphen.
-/
def readItem?
    (flags : Flags)
    (t : Text) : Option (CharSet × Text) := do
  let (first, rest) ← readPiece? flags t
  let rest := flags.skip rest
  let alone := (first.set? flags).map (·, rest)
  match rest with
  | '-' :: more =>
    match flags.skip more with
    | ']' :: _ => alone
    | '-' :: _ => alone
    | more => do
      let (last, rest) ← readPiece? flags more
      (range? flags first last).map (·, rest)
  | _ => alone

/-
  Reads on in a class that stands in other open ones. Each
  step takes a character, so `fuel` is the length at most.
-/
def readFrom
    (flags : Flags) :
    Nat → OpenClass → List OpenClass → Text →
      Option (CharSet × Text)
| 0, _, _, _ => none
| fuel + 1, here, outer, t =>
  match flags.skip t with
  | [] => none
  | '[' :: rest =>
    match asciiClass? rest with
    | some (s, negated, rest) => do
      let s ← flags.finish negated (flags.fold s)
      readFrom flags fuel (here.add s) outer rest
    | none =>
      let (inner, rest) := start flags rest
      readFrom flags fuel inner (here :: outer) rest
  | ']' :: rest =>
    match here.close? flags, outer with
    | none, _ => none
    | some s, [] => some (s, rest)
    | some s, next :: outer =>
      readFrom flags fuel (next.add s) outer rest
  | '&' :: '&' :: rest =>
    readFrom flags fuel (here.operate flags .meet) outer rest
  | '-' :: '-' :: rest =>
    readFrom flags fuel (here.operate flags .minus) outer rest
  | '~' :: '~' :: rest =>
    readFrom flags fuel (here.operate flags .apart) outer rest
  | t => do
    let (s, rest) ← readItem? flags t
    readFrom flags fuel (here.add s) outer rest

/- Reads a class behind its opening bracket. -/
def read?
    (flags : Flags)
    (t : Text) : Option (CharSet × Text) :=
  let (here, rest) := start flags t
  readFrom flags (t.length + 1) here [] rest

end OpenClass

end SourceDocs
