import SourceDocs.DocPath
import SourceDocs.SourceUrl.Address
import SourceDocs.SourceUrl.SourceIndex
import SourceDocs.SourceUrl.Template

/-
  Repair of URLs that lead to source files.

  A URL is checked against a checkout of the repository. One
  whose file has moved is built anew, one whose file exists
  nowhere is removed, and all others stay.

  Key definitions include:
    * `SourceDocs.SourceRepair`
    * `SourceDocs.SourceRepair.locate`
    * `SourceDocs.SourceRepair.repairUrl`
    * `SourceDocs.SourceRepair.repairText`
-/

------------------------------------------------------------
-- Checkouts
------------------------------------------------------------

namespace SourceDocs

/-
  What repair goes by: the checkout, the template of new
  URLs, the index of the sources, and their extensions.
-/
structure SourceRepair where
  checkout : Folder
  template : UrlTemplate
  index : SourceIndex
  extensions : List Text

/- Where the path of a URL leads in the checkout. -/
inductive Whereabouts where
  | notSource
  | present
  | elsewhere (path : Text)
  | missing
  deriving DecidableEq, Repr

/- What becomes of a URL. -/
inductive UrlVerdict where
  | keep
  | remove
  | replace (url : Text)
  deriving DecidableEq, Repr

namespace SourceRepair

/- Whether the extension of a path is one of a source. -/
def isSource
    (repair : SourceRepair)
    (path : Text) : Bool :=
  (FilePath.extension? path).any repair.extensions.contains

/- Where the path of a URL leads in the checkout. -/
def locate
    (repair : SourceRepair)
    (path : Text) : Whereabouts :=
  let decoded := PercentCode.decode path
  if !repair.isSource decoded then .notSource
  else if
      repair.checkout.isFile (FilePath.join ['.'] decoded) then
    .present
  else
    match repair.index.path? (DocPath.fileName decoded) with
    | some found => .elsewhere found
    | none => .missing

------------------------------------------------------------
-- New URLs
------------------------------------------------------------

/-
  The number of a line in digits, with or without a plus
  sign, if 32 bits can hold it.
-/
def lineNumber? (t : Text) : Option Nat :=
  let digits := (Text.after? ['+'] t).getD t
  if digits ≠ [] ∧ digits.all isAsciiDigit then
    let n := Nat.ofDigitChars 10 digits 0
    if n < Nat.pow 2 32 then some n else none
  else none

/- The line that a fragment names. -/
def lineOf? (fragment : Text) : Option Nat :=
  (Text.after? ['L'] fragment).bind lineNumber?

/-
  The URL of a file, with the fragment of the old one: by
  way of the template if that has a place for the line, else
  behind it.
-/
def rebuild
    (repair : SourceRepair)
    (branch path : Text)
    (fragment : Option Text) : Text :=
  let line :=
    if repair.template.hasLine then fragment.bind lineOf?
    else none
  let url := repair.template.buildOn branch path line
  if line.isSome then url else url ++ DocPath.fragment fragment

------------------------------------------------------------
-- Single URLs
------------------------------------------------------------

/- The fate of a blob URL. -/
def repairBlob
    (repair : SourceRepair)
    (url : BlobUrl) : UrlVerdict :=
  match repair.locate url.path with
  | .elsewhere found =>
    .replace (repair.rebuild url.branch found url.fragment)
  | .missing => .remove
  | .present => .keep
  | .notSource => .keep

/- What follows a stand-in, parted from its fragment. -/
def splitFragment (rest : Text) : Text × Option Text :=
  match Text.cutAtChar? '#' rest with
  | some (before, fragment) => (before, some fragment)
  | none => (rest, none)

/- The branch and the path behind the word `blob`. -/
def branchAndPath
    (repair : SourceRepair)
    (t : Text) : Text × Text :=
  (Text.cutAtChar? '/' t).getD (repair.template.branch, t)

/- The fate of a stand-in URL that gives a whole path. -/
def repairStandInBlob
    (repair : SourceRepair)
    (branch path : Text)
    (fragment : Option Text) : UrlVerdict :=
  match repair.locate path with
  | .elsewhere found =>
    .replace (repair.rebuild branch found fragment)
  | .missing => .remove
  | .present => .replace (repair.rebuild branch path fragment)
  | .notSource => .replace (repair.rebuild branch path fragment)

/- The fate of a stand-in URL that gives a name only. -/
def repairStandInName
    (repair : SourceRepair)
    (name : Text)
    (fragment : Option Text) : UrlVerdict :=
  if repair.locate name = .notSource then .keep
  else
    match repair.index.path? name with
    | some found =>
      .replace
        (repair.rebuild repair.template.branch found fragment)
    | none => .remove

/- The fate of a stand-in URL. -/
def repairStandIn
    (repair : SourceRepair)
    (url : StandInUrl) : UrlVerdict :=
  let (address, fragment) := splitFragment url.rest
  match Text.cutAt? "/blob/".toList address with
  | some (_, behind) =>
    let (branch, path) := repair.branchAndPath behind
    repair.repairStandInBlob branch path fragment
  | none =>
    repair.repairStandInName (DocPath.fileName address) fragment

/- The fate of a URL: stand-ins come before all others. -/
def repairUrl
    (repair : SourceRepair)
    (url : Text) : UrlVerdict :=
  match url.findFirst? StandInUrl.reader with
  | some o => repair.repairStandIn o.value
  | none =>
    match BlobUrl.ofText? url with
    | some blob => repair.repairBlob blob
    | none => .keep

------------------------------------------------------------
-- Texts
------------------------------------------------------------

/- What is left of a click line whose address is removed. -/
def removedClick : Text :=
  "%% Removed: invalid source link".toList

/- A click line after repair. -/
def repairClick
    (repair : SourceRepair)
    (line : ClickLine) : Text :=
  match repair.repairUrl line.url with
  | .keep => line.render
  | .remove => line.indent ++ removedClick
  | .replace url => { line with url }.render

/- A link into the web after repair. -/
def repairLink
    (repair : SourceRepair)
    (link : Link) : Text :=
  match repair.repairUrl link.target with
  | .keep => link.render
  | .remove => link.label
  | .replace target => { link with target }.render

/- A URL that stands alone after repair. -/
def repairBare
    (repair : SourceRepair)
    (url : Text) : Text :=
  match repair.repairUrl url with
  | .keep => url
  | .remove => []
  | .replace fixed => fixed

/- A text with its click lines repaired. -/
def repairClicks
    (repair : SourceRepair)
    (t : Text) : Text :=
  (t.cut ClickLine.reader).replace fun o =>
    repair.repairClick o.value

/- A text with its links into the web repaired. -/
def repairLinks
    (repair : SourceRepair)
    (t : Text) : Text :=
  (t.cut Link.webReader).replace fun o =>
    repair.repairLink o.value

/- A text with its stand-in URLs repaired. -/
def repairStandIns
    (repair : SourceRepair)
    (t : Text) : Text :=
  (t.cut StandInUrl.reader).replace fun o =>
    repair.repairBare o.covered

/-
  A text with every broken source URL replaced or removed:
  in click lines, then in links, then those left over.
-/
def repairText
    (repair : SourceRepair)
    (t : Text) : Text :=
  repair.repairStandIns
    (repair.repairLinks (repair.repairClicks t))

end SourceRepair

end SourceDocs
