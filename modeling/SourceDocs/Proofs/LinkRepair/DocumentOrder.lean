import Mathlib.Data.List.Find
import Mathlib.Data.List.Nodup
import SourceDocs.Proofs.Corpus.Inventory
import SourceDocs.Proofs.LinkRepair.Agreement
import SourceDocs.Proofs.Markdown.LinkSyntax

/-
  The order of the documents decides ties, and nothing else.

  A tie is a file name that two documents share, or an
  entity that two of them name in their headings. In a
  corpus without ties every question of repair has the same
  answer in any order.

  Key definitions include:
    * `SourceDocs.Heading.entities`
    * `SourceDocs.Corpus.HasNoTies`

  Main results:
    * `SourceDocs.Corpus.byFileName?_eq_of_perm`
    * `SourceDocs.Inventory.locate?_eq_of_perm`
    * `SourceDocs.Corpus.get?_repair_of_perm`
-/

------------------------------------------------------------
-- Ties
------------------------------------------------------------

namespace SourceDocs

/- The entities that the headings of a text name. -/
def Heading.entities (t : Text) : List Text :=
  (all t).filterMap entity?

namespace Corpus

/-
  No two documents have the same file name, and none names
  an entity that another names.
-/
structure HasNoTies (corpus : Corpus) : Prop where
  names : (corpus.paths.map DocPath.fileName).Nodup
  entities :
    ∀ d ∈ corpus.documents, ∀ e ∈ corpus.documents,
      ∀ entity ∈ Heading.entities d.text,
        entity ∈ Heading.entities e.text → d = e

instance (corpus : Corpus) : Decidable corpus.HasNoTies :=
  decidable_of_iff
    ((corpus.paths.map DocPath.fileName).Nodup ∧
      ∀ d ∈ corpus.documents, ∀ e ∈ corpus.documents,
        ∀ entity ∈ Heading.entities d.text,
          entity ∈ Heading.entities e.text → d = e)
    ⟨fun ⟨h₁, h₂⟩ => ⟨h₁, h₂⟩, fun h => ⟨h.names, h.entities⟩⟩

end Corpus

------------------------------------------------------------
-- Documents In Any Order
------------------------------------------------------------

namespace Corpus

variable {a b : Corpus}

/- The text at a path does not depend on the order. -/
theorem get?_eq_of_perm
    (hPerm : a.documents.Perm b.documents)
    (path : Text) : a.get? path = b.get? path := by
  rw [get?, get?, List.find?_eq_find?_of_perm hPerm]
  rintro d ⟨hd, hdPath⟩ e ⟨he, hePath⟩
  refine List.inj_on_of_nodup_map a.distinct hd he ?_
  rw [beq_iff_eq] at hdPath hePath
  rw [hdPath, hePath]

theorem contains_eq_of_perm
    (hPerm : a.documents.Perm b.documents)
    (path : Text) : a.contains path = b.contains path := by
  have hPaths : a.paths.Perm b.paths := hPerm.map Document.path
  rw [contains, contains, Bool.eq_iff_iff, List.contains_iff_mem,
    List.contains_iff_mem, hPaths.mem_iff]

/- A path has the file name that it ends in. -/
theorem fileName_eq_of_hasFileName
    {name path : Text}
    (hName : '/' ∉ name)
    (hHas : hasFileName name path = true) :
    DocPath.fileName path = name := by
  rw [hasFileName, Bool.or_eq_true, beq_iff_eq,
    List.isSuffixOf_iff_suffix] at hHas
  rcases hHas with rfl | ⟨front, rfl⟩
  · exact Text.afterLast_eq_self hName
  · exact Text.afterLast_append hName front

/-
  Where no file name is shared, the document with a name is
  the same in any order.
-/
theorem byFileName?_eq_of_perm
    (hPerm : a.documents.Perm b.documents)
    (hNames : (a.paths.map DocPath.fileName).Nodup)
    {name : Text}
    (hName : '/' ∉ name) :
    a.byFileName? name = b.byFileName? name := by
  have hPaths : a.paths.Perm b.paths := hPerm.map Document.path
  rw [byFileName?, byFileName?, List.find?_eq_find?_of_perm hPaths]
  rintro p ⟨hp, hpName⟩ q ⟨hq, hqName⟩
  refine List.inj_on_of_nodup_map hNames hp hq ?_
  rw [fileName_eq_of_hasFileName hName hpName,
    fileName_eq_of_hasFileName hName hqName]

end Corpus

------------------------------------------------------------
-- Inventories In Any Order
------------------------------------------------------------

/-
  Something that one element of a list gives at most is
  found in any order.
-/
theorem findSome?_eq_of_perm
    {α β : Type}
    {l l' : List α}
    {f : α → Option β}
    (hPerm : l.Perm l')
    (hOne :
      ∀ x ∈ l, ∀ y ∈ l, ∀ v w,
        f x = some v → f y = some w → x = y) :
    l.findSome? f = l'.findSome? f := by
  cases hFound : l.findSome? f with
  | none =>
      rw [List.findSome?_eq_none_iff] at hFound
      refine (List.findSome?_eq_none_iff.mpr fun x hx => ?_).symm
      exact hFound x (hPerm.mem_iff.mpr hx)
  | some v =>
      rcases List.exists_of_findSome?_eq_some hFound with
        ⟨x, hx, hv⟩
      cases hFound' : l'.findSome? f with
      | none =>
          rw [List.findSome?_eq_none_iff] at hFound'
          have hNone := hFound' x (hPerm.mem_iff.mp hx)
          rw [hv] at hNone
          exact absurd hNone (by simp)
      | some w =>
          rcases List.exists_of_findSome?_eq_some hFound' with
            ⟨y, hy, hw⟩
          have hSame :=
            hOne x hx y (hPerm.mem_iff.mpr hy) v w hv hw
          rw [hSame, hw] at hv
          exact hv.symm

namespace Inventory

/- A document locates what its headings name. -/
theorem mem_entities_of_lookup_namings
    {d : Document}
    {entity : Text}
    {location : Location}
    (hLookup : (namings d).lookup entity = some location) :
    entity ∈ Heading.entities d.text := by
  rcases List.mem_filterMap.mp (mem_namings_of_lookup hLookup)
    with ⟨anchor, hAnchor, hNaming⟩
  rcases List.mem_map.mp hAnchor with ⟨heading, hHeading, rfl⟩
  rcases Option.map_eq_some_iff.mp hNaming with
    ⟨named, hNamed, hEq⟩
  rcases Prod.mk.inj hEq with ⟨rfl, -⟩
  exact List.mem_filterMap.mpr ⟨heading, hHeading, hNamed⟩

variable {a b : Corpus}

/-
  Where no entity is named by two documents, each is located
  at the same place in any order.
-/
theorem locate?_eq_of_perm
    (hPerm : a.documents.Perm b.documents)
    (hTies : a.HasNoTies)
    (entity : Text) :
    (ofCorpus a).locate? entity = (ofCorpus b).locate? entity := by
  rw [locate?_ofCorpus, locate?_ofCorpus]
  refine findSome?_eq_of_perm hPerm ?_
  intro d hd e he v w hv hw
  exact hTies.entities d hd e he entity
    (mem_entities_of_lookup_namings hv)
    (mem_entities_of_lookup_namings hw)

theorem anchorsOf_eq_of_perm
    (hPerm : a.documents.Perm b.documents)
    (path : Text) :
    (ofCorpus a).anchorsOf path = (ofCorpus b).anchorsOf path := by
  rw [anchorsOf_ofCorpus, anchorsOf_ofCorpus,
    Corpus.get?_eq_of_perm hPerm]

end Inventory

------------------------------------------------------------
-- Repair In Any Order
------------------------------------------------------------

/- Without ties all orders of a corpus answer repair alike. -/
theorem LinkRepair.agrees_of_perm
    {a b : Corpus}
    (hPerm : a.documents.Perm b.documents)
    (hTies : a.HasNoTies)
    (sources : Option SourceRepair) :
    (ofCorpus a sources).Agrees (ofCorpus b sources) where
  documents :=
    Corpus.lookupAliased?_congr (Corpus.contains_eq_of_perm hPerm)
      fun path =>
        Corpus.byFileName?_eq_of_perm hPerm hTies.names
          (Text.not_mem_afterLast '/' path)
  anchors := Inventory.anchorsOf_eq_of_perm hPerm
  entities := Inventory.locate?_eq_of_perm hPerm hTies
  sources := rfl

namespace Corpus

/-
  Order independence: in a corpus without ties each document
  is repaired to the same text in whatever order they come.
-/
theorem get?_repair_of_perm
    (a b : Corpus)
    (sources : Option SourceRepair)
    (hPerm : a.documents.Perm b.documents)
    (hTies : a.HasNoTies)
    {d : Document}
    (hMem : d ∈ a.documents) :
    ∃ t, (a.repair sources).get? d.path = some t ∧
      (b.repair sources).get? d.path = some t :=
  get?_repair_of_agrees
    (LinkRepair.agrees_of_perm hPerm hTies sources) hMem
    (hPerm.mem_iff.mp hMem)

/- Three documents that are found by name and by entity. -/
theorem get?_repair_of_perm_reverse :
    let d : Document :=
      ⟨"x/A.md".toList,
        "[a](y/M.md) [Foo](Gone.md) \x7bref:Bar\x7d".toList⟩
    let documents :=
      [d, ⟨"z/M.md".toList, "## Foo\n## Foo (old)".toList⟩,
       ⟨"N.md".toList, "## Bar".toList⟩]
    let a := Corpus.ofList documents
    let b := Corpus.ofList documents.reverse
    a ≠ b ∧ (a.repair none).get? d.path ≠ some d.text ∧
      ∃ t, (a.repair none).get? d.path = some t ∧
        (b.repair none).get? d.path = some t :=
  ⟨by decide +kernel, by decide +kernel,
    get?_repair_of_perm _ _ none (by decide +kernel)
      (by decide +kernel) (by decide +kernel)⟩

end Corpus

end SourceDocs
