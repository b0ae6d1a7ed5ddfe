import SourceDocs.Text.Basic

/-
  Values of TOML, and how the lines of a document add to its
  tables.

  Key definitions include:
    * `SourceDocs.TomlValue`
    * `SourceDocs.TomlTable`
    * `SourceDocs.TomlTable.within`
    * `SourceDocs.TomlTable.enter`
    * `SourceDocs.TomlTable.openTable`
    * `SourceDocs.TomlTable.openElement`

  A table is added to only in ways that fit how it came into
  being; whatever would define something twice is refused.
-/

------------------------------------------------------------
-- Values
------------------------------------------------------------

namespace SourceDocs

/- How a table came into being. -/
inductive TableOrigin where
  /- By a header of its own, or as the whole document. -/
  | stated
  /- On the way of another table's header. -/
  | implied
  /- On the way of a dotted key. -/
  | dotted
  /- In braces, where it is complete. -/
  | inline
  deriving DecidableEq, Repr

/-
  A value. Of numbers, dates and Booleans it is known only
  that they are some. An array of `tables` has a header for
  each of them.
-/
inductive TomlValue where
  | text (t : Text)
  | scalar
  | list (items : List TomlValue)
  | table
      (origin : TableOrigin)
      (entries : List (Text × TomlValue))
  | tables (elements : List (List (Text × TomlValue)))

/- The entries of a table, in order. -/
abbrev TomlTable :=
  List (Text × TomlValue)

------------------------------------------------------------
-- Adding To Tables
------------------------------------------------------------

namespace TomlTable

/- A table with another value for a key that it has. -/
def replace
    (key : Text)
    (value : TomlValue)
    (t : TomlTable) : TomlTable :=
  t.map fun entry =>
    if entry.1 = key then (key, value) else entry

/-
  Acts on the table that keys lead to, starting from one of
  a given origin. Tables that are missing on the way come
  into being; of an array the last table is meant. A dotted
  key may not lead through a table with a header.
-/
def within
    (byDots : Bool)
    (act : TableOrigin → TomlTable → Option TomlTable) :
    List Text → TableOrigin → TomlTable → Option TomlTable
| [], origin, t => act origin t
| key :: keys, _, t =>
  match t.lookup key with
  | none =>
    let fresh : TableOrigin :=
      if byDots then .dotted else .implied
    (within byDots act keys fresh []).map fun inside =>
      t ++ [(key, .table fresh inside)]
  | some (.table origin inside) =>
    if origin = .inline ∨ (byDots ∧ origin = .stated) then none
    else
      (within byDots act keys origin inside).map fun inside =>
        replace key (.table origin inside) t
  | some (.tables elements) =>
    match elements.getLast? with
    | none => none
    | some last =>
      (within byDots act keys .stated last).map fun last =>
        replace key (.tables (elements.dropLast ++ [last])) t
  | some _ => none

/- Adds an entry to a table that has no such key. -/
def add
    (key : Text)
    (value : TomlValue)
    (t : TomlTable) : Option TomlTable :=
  match t.lookup key with
  | some _ => none
  | none => some (t ++ [(key, value)])

/-
  Enters a value by the parts of its key. Only tables that
  dotted keys have made take entries by dotted keys.
-/
def enter
    (keys : List Text)
    (key : Text)
    (value : TomlValue) :
    TableOrigin → TomlTable → Option TomlTable :=
  within true
    (fun origin t =>
      if keys ≠ [] ∧ origin ≠ .dotted then none
      else add key value t)
    keys

/- Opens the table of a header. -/
def openTable
    (keys : List Text)
    (key : Text)
    (root : TomlTable) : Option TomlTable :=
  within false
    (fun _ t =>
      match t.lookup key with
      | none => some (t ++ [(key, .table .stated [])])
      | some (.table .implied inside) =>
        some (replace key (.table .stated inside) t)
      | some _ => none)
    keys .stated root

/- Opens another element of an array of tables. -/
def openElement
    (keys : List Text)
    (key : Text)
    (root : TomlTable) : Option TomlTable :=
  within false
    (fun _ t =>
      match t.lookup key with
      | none => some (t ++ [(key, .tables [[]])])
      | some (.tables elements) =>
        some (replace key (.tables (elements ++ [[]])) t)
      | some _ => none)
    keys .stated root

end TomlTable

end SourceDocs
