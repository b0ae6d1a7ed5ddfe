import SourceDocs.LinkRepair.Lookup

/-
  What becomes of a link in a document.

  A link to a document of the corpus is kept up to date, a
  link to a document that nobody knows goes to the place of
  the entity it speaks of, and if there is none the link is
  demoted to its label. Links that lead elsewhere stay.

  Key definitions include:
    * `SourceDocs.Resolution`
    * `SourceDocs.pickAnchor?`
    * `SourceDocs.entityGuesses`
    * `SourceDocs.resolveLink`
-/

------------------------------------------------------------
-- Resolutions
------------------------------------------------------------

namespace SourceDocs

/- What becomes of a link. -/
inductive Resolution where
  | demote
  | keep
  | redirect (target : Text)
  deriving DecidableEq, Repr

------------------------------------------------------------
-- Targets
------------------------------------------------------------

/- Whether a target leads into the web. -/
def isWebAddress (target : Text) : Bool :=
  "http://".toList.isPrefixOf target ||
    "https://".toList.isPrefixOf target

/- The path and the anchor of a target; empty ones are none. -/
def splitTarget (target : Text) : Text × Option Text :=
  match Text.cutAtChar? '#' target with
  | none => (target, none)
  | some (path, anchor) =>
    (Text.trim path, some (Text.trim anchor) |>.filter (· ≠ []))

/- Whether an anchor names a line of a source file. -/
def isLineAnchor : Text → Bool
| 'L' :: digits => !digits.isEmpty && digits.all isDecimalDigit
| _ => false

/- Whether a path names a document once it is decoded. -/
def namesDocument (path : Text) : Bool :=
  ".md".toList.isSuffixOf (PercentCode.decode path)

------------------------------------------------------------
-- Entities
------------------------------------------------------------

/- File stems that name no entity. -/
def genericStems : List Text :=
  ["index".toList, "README".toList]

/- Whether a label looks like the name of a type or member. -/
def isIdentifier : Text → Bool
| c :: d :: cs =>
  isAsciiLetter c && (d :: cs).all Heading.isNameChar
| _ => false

/-
  The entity that an anchor hints at: the anchor without
  digits, hyphens and underscores, unless too little is left.
-/
def anchorEntity? (anchor : Text) : Option Text :=
  let kept := anchor.filter fun c =>
    !(isAsciiDigit c || c == '-' || c == '_')
  if kept.length < 3 then none else some kept

/- The entity that a file name hints at. -/
def stemEntity? (path : Text) : Option Text :=
  let stem := DocPath.fileStem path
  if stem = [] ∨ stem ∈ genericStems then none else some stem

/- The entities a link may speak of, the likeliest first. -/
def entityGuesses
    (label : Text)
    (anchor : Option Text)
    (candidate : Text) : List Text :=
  (if isIdentifier label then [label] else []) ++
    (anchor.bind anchorEntity?).toList ++
    (stemEntity? candidate).toList

------------------------------------------------------------
-- Anchors
------------------------------------------------------------

/- The first anchor whose heading holds a hint. -/
def hintedAnchor?
    (anchors : List Anchor)
    (hint : Text) : Option Anchor :=
  let lowered := Text.toLower hint
  anchors.find? fun a =>
    Text.holds (Text.toLower a.heading) lowered

/-
  The slug that comes closest to the anchor wanted: the very
  slug, then one that holds it or is held by it, then one
  whose heading holds a hint, then the first.
-/
def pickAnchor?
    (anchors : List Anchor)
    (wanted : Text)
    (hints : List Text) : Option Text :=
  let lowered := (Text.toLower wanted).filter (· ≠ '_')
  let exactOne := anchors.find? fun a =>
    a.slug == wanted || a.slug == lowered
  let close := anchors.find? fun a =>
    Text.holds a.slug lowered || Text.holds lowered a.slug
  let hinted :=
    (hints.filter (· ≠ [])).findSome? (hintedAnchor? anchors)
  (((exactOne.or close).or hinted).or anchors.head?).map
    Anchor.slug

/- The slug for a link that wants an anchor, or none. -/
def chooseAnchor?
    (anchors : List Anchor)
    (label : Text) : Option Text → Option Text
| some wanted =>
  pickAnchor? anchors wanted
    [(anchorEntity? wanted).getD [], label]
| none => anchors.head?.map Anchor.slug

------------------------------------------------------------
-- Links
------------------------------------------------------------

/- The link to where an entity is documented. -/
def Location.linkFrom
    (location : Location)
    (current : Text) : Text :=
  DocPath.relativeLink current location.document
    (some location.anchor)

/- What becomes of a link to a document that is missing. -/
def resolveEntity
    (inventory : Inventory)
    (current : Text)
    (guesses : List Text) : Resolution :=
  match guesses.findSome? inventory.locate? with
  | some location => .redirect (location.linkFrom current)
  | none => .demote

/-
  What becomes of a link that names a document by its path.
-/
def resolveDocument
    (corpus : Corpus)
    (inventory : Inventory)
    (current label path : Text)
    (anchor : Option Text) : Resolution :=
  let candidate := DocPath.resolve current path
  match corpus.lookupAliased? candidate path with
  | none =>
    resolveEntity inventory current
      (entityGuesses label anchor candidate)
  | some document =>
    .redirect (DocPath.relativeLink current document
      (chooseAnchor? (inventory.anchorsOf document) label
        anchor))

/- What becomes of a link in the document `current`. -/
def resolveLink
    (corpus : Corpus)
    (inventory : Inventory)
    (current : Text)
    (link : Link) : Resolution :=
  let target := Text.trim link.target
  if target = [] ∨ isWebAddress target then .keep
  else
    let (path, anchor) := splitTarget target
    if path = [] then .keep
    else if anchor.any isLineAnchor then .demote
    else if !namesDocument path then .keep
    else
      resolveDocument corpus inventory current link.label path
        anchor

end SourceDocs
