import SourceDocs.Declaration.Basic
import SourceDocs.Text.Occurrence

/-
  Calls in the bodies of methods.

  Calls on a member of an object are taken first, then calls
  on an object whose method starts with a capital and was
  not seen before, then the making of new objects. Each of
  them is taken once.

  Key definitions include:
    * `SourceDocs.firstBy`
    * `SourceDocs.ChainCall.reader`
    * `SourceDocs.DirectCall.reader`
    * `SourceDocs.Creation.reader`
    * `SourceDocs.CallEdge.all`
-/

------------------------------------------------------------
-- First Of Each
------------------------------------------------------------

namespace SourceDocs

/- The elements of a list, the first for each key only. -/
def firstBy
    {α κ : Type}
    [DecidableEq κ]
    (key : α → κ) : List α → List α
| [] => []
| a :: as => a :: (firstBy key as).filter (key · ≠ key a)

------------------------------------------------------------
-- Names And Dots
------------------------------------------------------------

/- A word with the blanks and the sign that follow it. -/
def wordThen?
    (sign : Char)
    (t : Text) : Option (Text × Text × Text) := do
  let (word, t) ← Text.run? isWord t
  let (blanks, t) := Text.run isBlank t
  let t ← Text.after? [sign] t
  some (word, word ++ blanks ++ [sign], t)

------------------------------------------------------------
-- Calls
------------------------------------------------------------

/- A call on a member of an object. -/
structure ChainCall where
  member : Text
  method : Text
  deriving DecidableEq, Repr

namespace ChainCall

/- Reads `root.member.method(`. -/
def reader : Reader ChainCall :=
  fun _ t => do
    let (_, root, t) ← wordThen? '.' t
    let (gap, t) := Text.run isBlank t
    let (member, written, t) ← wordThen? '.' t
    let (gap', t) := Text.run isBlank t
    let (method, call, _) ← wordThen? '(' t
    some (⟨member, method⟩, root ++ gap ++ written ++ gap' ++ call)

/- The member and the method with a dot between them. -/
def key (call : ChainCall) : Text :=
  call.member ++ '.' :: call.method

/- The edge of a call. -/
def edge (call : ChainCall) : CallEdge :=
  ⟨.chain, call.method, some call.member, some call.key⟩

end ChainCall

/- A call on an object. -/
structure DirectCall where
  receiver : Text
  method : Text
  deriving DecidableEq, Repr

namespace DirectCall

/- Reads `receiver.method(`. -/
def reader : Reader DirectCall :=
  fun _ t => do
    let (receiver, written, t) ← wordThen? '.' t
    let (gap, t) := Text.run isBlank t
    let (method, call, _) ← wordThen? '(' t
    some (⟨receiver, method⟩, written ++ gap ++ call)

/- Whether the method starts with a capital. -/
def isPublic (call : DirectCall) : Bool :=
  call.method.head?.any isUpper

/- The edge of a call. -/
def edge (call : DirectCall) : CallEdge :=
  ⟨.direct, call.method, some call.receiver,
    some (call.receiver ++ '.' :: call.method)⟩

end DirectCall

/- The making of a new object. -/
structure Creation where
  type : Text
  deriving DecidableEq, Repr

namespace Creation

/- Reads `new Type(`. -/
def reader : Reader Creation :=
  fun before t => do
    let word := "new".toList
    let rest ← Text.after? word t
    let (blanks, rest) ← Text.run? isBlank rest
    let (type, call, _) ← wordThen? '(' rest
    if atWordStart before then
      some (⟨type⟩, word ++ blanks ++ call)
    else none

/- The edge of a call. -/
def edge (call : Creation) : CallEdge :=
  ⟨.creation, call.type, none, none⟩

end Creation

------------------------------------------------------------
-- Edges
------------------------------------------------------------

namespace CallEdge

/- The calls on members, one for each key. -/
def chains (body : Text) : List ChainCall :=
  firstBy ChainCall.key (Text.findAll body ChainCall.reader)

/-
  The calls on objects, one for each method that starts with
  a capital and is called on no member.
-/
def directs (body : Text) : List DirectCall :=
  let chained := (chains body).map ChainCall.method
  firstBy DirectCall.method
    ((Text.findAll body DirectCall.reader).filter fun call =>
      call.isPublic && !chained.contains call.method)

/- The making of new objects, one for each type. -/
def creations (body : Text) : List Creation :=
  firstBy Creation.type
    (Text.findAll body Creation.reader)

/- The calls in the body of a method. -/
def all (body : Text) : List CallEdge :=
  (chains body).map ChainCall.edge ++
    (directs body).map DirectCall.edge ++
    (creations body).map Creation.edge

end CallEdge

end SourceDocs
