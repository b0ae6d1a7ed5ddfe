import SourceDocs.Text.Basic

/-
  JSON values and their text.

  Key definitions include:
    * `SourceDocs.Json`
    * `SourceDocs.Json.compact`
    * `SourceDocs.Json.pretty`

  The fields of an object keep their order. The only numbers
  are natural ones.
-/

------------------------------------------------------------
-- Values
------------------------------------------------------------

namespace SourceDocs

/- A JSON value. -/
inductive Json where
  | null
  | bool (b : Bool)
  | number (n : Nat)
  | text (t : Text)
  | list (items : List Json)
  | object (fields : List (Text × Json))

namespace Json

/- A text, or null where there is none. -/
def ofText? : Option Text → Json
| some t => .text t
| none => .null

/- The list of some values. -/
def ofList
    {α : Type}
    (write : α → Json)
    (items : List α) : Json :=
  .list (items.map write)

/- The list of some texts. -/
def texts (ts : List Text) : Json :=
  ofList Json.text ts

/- An object with names that need no list of characters. -/
def record (fields : List (String × Json)) : Json :=
  .object (fields.map fun (name, value) =>
    (name.toList, value))

------------------------------------------------------------
-- Strings
------------------------------------------------------------

/- A hexadecimal digit. -/
def hexDigit (n : Nat) : Char :=
  Nat.digitChar n

/-
  A character in a string: quotes, backslashes and control
  characters are escaped, all others stand for themselves.
-/
def escape (c : Char) : Text :=
  if c = '"' then ['\\', '"']
  else if c = '\\' then ['\\', '\\']
  else if c = '\n' then ['\\', 'n']
  else if c = '\r' then ['\\', 'r']
  else if c = '\t' then ['\\', 't']
  else if c = Char.ofNat 8 then ['\\', 'b']
  else if c = Char.ofNat 12 then ['\\', 'f']
  else if c.toNat < 32 then
    ['\\', 'u', '0', '0', hexDigit (c.toNat / 16),
     hexDigit (c.toNat % 16)]
  else [c]

/- A text as a string. -/
def quote (t : Text) : Text :=
  '"' :: t.flatMap escape ++ ['"']

------------------------------------------------------------
-- Compact Text
------------------------------------------------------------

mutual

/- A value without blanks. -/
def compact : Json → Text
| .null => "null".toList
| .bool true => "true".toList
| .bool false => "false".toList
| .number n => Text.ofNat n
| .text t => quote t
| .list items => '[' :: compactItems items ++ [']']
| .object fields =>
  '\x7b' :: compactFields fields ++ ['\x7d']

/- The items of a list. -/
def compactItems : List Json → Text
| [] => []
| [v] => compact v
| v :: vs => compact v ++ ',' :: compactItems vs

/- The fields of an object. -/
def compactFields : List (Text × Json) → Text
| [] => []
| [(name, v)] => quote name ++ ':' :: compact v
| (name, v) :: fs =>
  quote name ++ ':' :: compact v ++ ',' :: compactFields fs

end

------------------------------------------------------------
-- Pretty Text
------------------------------------------------------------

/- The start of a line that is indented by so many steps. -/
def newLine (depth : Nat) : Text :=
  '\n' :: List.replicate (2 * depth) ' '

mutual

/- A value with each item and each field on its own line. -/
def prettyAt (depth : Nat) : Json → Text
| .null => "null".toList
| .bool true => "true".toList
| .bool false => "false".toList
| .number n => Text.ofNat n
| .text t => quote t
| .list [] => "[]".toList
| .list items =>
  '[' :: prettyItems (depth + 1) items ++ newLine depth ++ [']']
| .object [] => ['\x7b', '\x7d']
| .object fields =>
  '\x7b' :: prettyFields (depth + 1) fields ++ newLine depth ++
    ['\x7d']

/- The items of a list, one line each. -/
def prettyItems (depth : Nat) : List Json → Text
| [] => []
| [v] => newLine depth ++ prettyAt depth v
| v :: vs =>
  newLine depth ++ prettyAt depth v ++ ',' ::
    prettyItems depth vs

/- The fields of an object, one line each. -/
def prettyFields (depth : Nat) : List (Text × Json) → Text
| [] => []
| [(name, v)] =>
  newLine depth ++ quote name ++ ':' :: ' ' :: prettyAt depth v
| (name, v) :: fs =>
  newLine depth ++ quote name ++ ':' :: ' ' ::
    prettyAt depth v ++ ',' :: prettyFields depth fs

end

/- A value over several lines, indented by two spaces. -/
def pretty (v : Json) : Text :=
  prettyAt 0 v

end Json

end SourceDocs
