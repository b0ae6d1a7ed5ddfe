import SourceDocs.Corpus.Inventory
import SourceDocs.Proofs.Markdown.Slugs

/-
  What the inventory of a corpus holds: for each path the
  anchors of the document there, and for each entity the
  first anchor whose heading names it.

  Key definitions include:
    * `SourceDocs.Inventory.namings`

  Main results:
    * `SourceDocs.Inventory.anchorsOf_ofCorpus`
    * `SourceDocs.Inventory.locate?_ofCorpus`
    * `SourceDocs.Inventory.exists_of_locate?`
-/

------------------------------------------------------------
-- Values By Name
------------------------------------------------------------

namespace SourceDocs

/- A value for a name that has one already is never found. -/
theorem Text.lookup_or_of_known
    {β : Type}
    {values : List (Text × β)}
    {name : Text}
    {known : β}
    (hKnown : values.lookup name = some known)
    (other : β)
    (n : Text) :
    (values.lookup n).or ([(name, other)].lookup n) =
      values.lookup n := by
  by_cases hName : n = name
  · rw [hName, hKnown, Option.some_or]
  · have hNe : (n == name) = false := by simpa using hName
    rw [List.lookup_cons, hNe, List.lookup_nil, Option.or_none]

------------------------------------------------------------
-- Anchors
------------------------------------------------------------

/- The slugs of anchors can be told from other texts. -/
theorem Anchor.isSlug_of_mem_all
    {t : Text}
    {a : Anchor}
    (hMem : a ∈ Anchor.all t) : Heading.IsSlug a.slug := by
  rcases List.mem_map.mp hMem with ⟨heading, -, rfl⟩
  rw [Heading.slug_ofHeading]
  exact Heading.isSlug_slug heading

namespace Inventory

/- Documents are entered one behind the other. -/
theorem anchors_foldl_add
    (ds : List Document)
    (inventory : Inventory) :
    (ds.foldl add inventory).anchors =
      inventory.anchors ++
        ds.map fun d => (d.path, Anchor.all d.text) := by
  induction ds generalizing inventory with
  | nil => rw [List.foldl_nil, List.map_nil, List.append_nil]
  | cons d ds ih =>
      rw [List.foldl_cons, ih, add, List.append_assoc,
        List.map_cons, List.singleton_append]

/- Looking up by path is finding the first document there. -/
theorem lookup_map_path
    {β : Type}
    (ds : List Document)
    (write : Document → β)
    (path : Text) :
    (ds.map fun d => (d.path, write d)).lookup path =
      (ds.find? (·.path == path)).map write := by
  induction ds with
  | nil => rfl
  | cons d ds ih =>
      rw [List.map_cons, List.lookup_cons]
      by_cases hPath : d.path = path
      · rw [List.find?_cons_of_pos (by simpa using hPath)]
        simp [hPath]
      · have hNe : (path == d.path) = false := by
          simpa using fun hEq : path = d.path => hPath hEq.symm
        rw [List.find?_cons_of_neg (by simpa using hPath), hNe]
        exact ih

/- The anchors at a path are those of the document there. -/
theorem anchorsOf_ofCorpus
    (corpus : Corpus)
    (path : Text) :
    (ofCorpus corpus).anchorsOf path =
      ((corpus.get? path).map Anchor.all).getD [] := by
  rw [anchorsOf, ofCorpus, anchors_foldl_add, List.nil_append,
    lookup_map_path corpus.documents fun d => Anchor.all d.text,
    Corpus.get?, Option.map_map]
  rfl

/- Every anchor that is known of a document has a slug. -/
theorem isSlug_of_mem_anchorsOf
    {corpus : Corpus}
    {path : Text}
    {a : Anchor}
    (hMem : a ∈ (ofCorpus corpus).anchorsOf path) :
    Heading.IsSlug a.slug := by
  rw [anchorsOf_ofCorpus] at hMem
  cases hText : corpus.get? path with
  | none => simp [hText] at hMem
  | some t =>
      rw [hText] at hMem
      exact Anchor.isSlug_of_mem_all hMem

------------------------------------------------------------
-- Locations
------------------------------------------------------------

/- The entity that an anchor's heading names, located there. -/
def naming?
    (document : Text)
    (a : Anchor) : Option (Text × Location) :=
  (Heading.entity? a.heading).map fun entity =>
    (entity, ⟨document, a.slug⟩)

/- The entities that a document names, in order. -/
def namings (d : Document) : List (Text × Location) :=
  (Anchor.all d.text).filterMap (naming? d.path)

/- A new location counts only if there is none before it. -/
theorem lookup_enter
    (entities : List (Text × Location))
    (entity : Text)
    (location : Location)
    (name : Text) :
    (enter entities entity location).lookup name =
      (entities.lookup name).or
        ([(entity, location)].lookup name) := by
  rw [enter]
  split
  · next known hKnown =>
    exact (Text.lookup_or_of_known hKnown location name).symm
  · exact List.lookup_append

theorem lookup_enterAnchor
    (document : Text)
    (entities : List (Text × Location))
    (a : Anchor)
    (name : Text) :
    (enterAnchor document entities a).lookup name =
      (entities.lookup name).or
        ((naming? document a).toList.lookup name) := by
  rw [enterAnchor, naming?]
  split
  · next entity hEntity =>
    rw [hEntity]
    exact lookup_enter entities entity _ name
  · next hEntity =>
    rw [hEntity, Option.map_none, Option.toList_none,
      List.lookup_nil, Option.or_none]

/- So it is with the anchors of a document. -/
theorem lookup_foldl_enterAnchor
    (document : Text)
    (anchors : List Anchor)
    (entities : List (Text × Location))
    (name : Text) :
    (anchors.foldl (enterAnchor document) entities).lookup name =
      (entities.lookup name).or
        ((anchors.filterMap (naming? document)).lookup name) := by
  induction anchors generalizing entities with
  | nil =>
      rw [List.foldl_nil, List.filterMap_nil, List.lookup_nil,
        Option.or_none]
  | cons a anchors ih =>
      have hSplit :
          (a :: anchors).filterMap (naming? document) =
            (naming? document a).toList ++
              anchors.filterMap (naming? document) := by
        rw [List.filterMap_cons]
        cases naming? document a <;> rfl
      rw [List.foldl_cons, ih, lookup_enterAnchor, hSplit,
        List.lookup_append, Option.or_assoc]

/- And with the documents, one behind the other. -/
theorem lookup_entities_foldl_add
    (ds : List Document)
    (inventory : Inventory)
    (name : Text) :
    (ds.foldl add inventory).entities.lookup name =
      (inventory.entities.lookup name).or
        (ds.findSome? fun d => (namings d).lookup name) := by
  induction ds generalizing inventory with
  | nil =>
      rw [List.foldl_nil, List.findSome?_nil, Option.or_none]
  | cons d ds ih =>
      rw [List.foldl_cons, ih, add, lookup_foldl_enterAnchor,
        Option.or_assoc, List.findSome?_cons, namings]
      cases ((Anchor.all d.text).filterMap
          (naming? d.path)).lookup name <;> rfl

/- An entity is located where a document first names it. -/
theorem locate?_ofCorpus
    (corpus : Corpus)
    (entity : Text) :
    (ofCorpus corpus).locate? entity =
      corpus.documents.findSome? fun d =>
        (namings d).lookup entity := by
  rw [locate?, ofCorpus, lookup_entities_foldl_add,
    List.lookup_nil, Option.none_or]

/- What is located in a document is one of its namings. -/
theorem mem_namings_of_lookup
    {d : Document}
    {entity : Text}
    {location : Location}
    (hLookup : (namings d).lookup entity = some location) :
    (entity, location) ∈ namings d := by
  rcases List.lookup_eq_some_iff.mp hLookup with
    ⟨front, back, hNamings, -⟩
  rw [hNamings]
  exact List.mem_append_right front List.mem_cons_self

/- An entity is located at an anchor of a document. -/
theorem exists_of_locate?
    {corpus : Corpus}
    {entity : Text}
    {location : Location}
    (hLocate :
      (ofCorpus corpus).locate? entity = some location) :
    ∃ d ∈ corpus.documents, ∃ a ∈ Anchor.all d.text,
      location = ⟨d.path, a.slug⟩ := by
  rw [locate?_ofCorpus] at hLocate
  rcases List.exists_of_findSome?_eq_some hLocate with
    ⟨d, hd, hLookup⟩
  rcases List.mem_filterMap.mp (mem_namings_of_lookup hLookup)
    with ⟨a, ha, hNaming⟩
  rcases Option.map_eq_some_iff.mp hNaming with ⟨_, -, hEq⟩
  rcases Prod.mk.inj hEq with ⟨-, rfl⟩
  exact ⟨d, hd, a, ha, rfl⟩

end Inventory

end SourceDocs
