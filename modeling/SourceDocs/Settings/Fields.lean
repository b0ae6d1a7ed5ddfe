import SourceDocs.Toml.Document

/-
  Records in TOML.

  A record is a table with an entry for each field, or an
  array of the fields in their order. Fields may be left out
  if they have a default.

  Key definitions include:
    * `SourceDocs.TomlFields`
    * `SourceDocs.TomlFields.ofValue?`
    * `SourceDocs.TomlFields.required?`
    * `SourceDocs.TomlFields.withDefault?`
-/

------------------------------------------------------------
-- Plain Values
------------------------------------------------------------

namespace SourceDocs

namespace TomlValue

/- The text that a value is. -/
def text? : TomlValue → Option Text
| .text t => some t
| _ => none

/- The items of an array of either kind. -/
def items? : TomlValue → Option (List TomlValue)
| .list items => some items
| .tables elements => some (elements.map (.table .stated))
| _ => none

/- The texts of an array. -/
def texts? (v : TomlValue) : Option (List Text) :=
  v.items?.bind (·.mapM text?)

end TomlValue

------------------------------------------------------------
-- Records
------------------------------------------------------------

/- The fields of a record by their names. -/
abbrev TomlFields :=
  Text → Option TomlValue

namespace TomlFields

/-
  The fields of a value that has these names for them. In a
  closed record no entry may have another name.
-/
def ofValue?
    (names : List Text)
    (isClosed : Bool)
    (v : TomlValue) : Option TomlFields :=
  match v with
  | .table _ entries =>
    if isClosed ∧ entries.any (fun e => e.1 ∉ names) then none
    else some fun name => entries.lookup name
  | _ =>
    v.items?.map fun items => fun name =>
      (names.zip items).lookup name

/- A field that may not be left out. -/
def required?
    {α : Type}
    (fields : TomlFields)
    (name : String)
    (read : TomlValue → Option α) : Option α :=
  (fields name.toList).bind read

/- A field with a default. -/
def withDefault?
    {α : Type}
    (fields : TomlFields)
    (name : String)
    (read : TomlValue → Option α)
    (value : α) : Option α :=
  match fields name.toList with
  | some v => read v
  | none => some value

/- A field that may be left out. -/
def optional?
    {α : Type}
    (fields : TomlFields)
    (name : String)
    (read : TomlValue → Option α) : Option (Option α) :=
  withDefault? fields name (fun v => (read v).map some) none

end TomlFields

end SourceDocs
