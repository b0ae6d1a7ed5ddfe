import Mathlib.Data.Option.Basic
import SourceDocs.Proofs.SourceUrl.ClickLines
import SourceDocs.Proofs.Text.Collecting

/-
  Repair of the click lines in a text.

  A text is read line by line: a line opens a click line, and
  the next line to be read is the one behind its end, or it
  is passed over. Repair writes a click line in the place of
  one, or a line that opens none.

  Key definitions include:
    * `SourceDocs.ClickLine.All`
    * `SourceDocs.SourceRepair.KeepsClicks`
    * `SourceDocs.SourceRepair.SettlesClicks`

  Main results:
    * `SourceDocs.ClickLine.line_induction`
    * `SourceDocs.ClickLine.collect_unread`
    * `SourceDocs.ClickLine.collect_found`
    * `SourceDocs.SourceRepair.keepsClicks_repairClicks`
-/

------------------------------------------------------------
-- Reading On
------------------------------------------------------------

namespace SourceDocs

namespace ClickLine

theorem render_ne_nil
    {line : ClickLine}
    (h : line.IsWritable) : line.render ≠ [] := by
  rcases h.back with ⟨shown, hBack, -⟩
  simp [render, hBack]

/- A text starts with a line to pass over, or a click line. -/
theorem line_induction
    {p : Text → Prop}
    (unread :
      ∀ l next, '\n' ∉ l →
        read? (l ++ Text.behind next) = none →
        (∀ u ∈ next, p u) → p (l ++ Text.behind next))
    (found :
      ∀ (line : ClickLine) next, line.IsWritable →
        (∀ u ∈ next, p u) → p (line.render ++ Text.behind next))
    (t : Text) : p t := by
  induction t using Text.behind_induction with
  | step t ih =>
      cases hRead : read? t with
      | some line =>
          rcases read?_eq_some_iff.mp hRead with
            ⟨hWritable, next, rfl⟩
          exact found line next hWritable (ih _ next rfl)
      | none =>
          rcases Text.exists_line t with ⟨l, next, hl, rfl⟩
          exact unread l next hl hRead (ih l next rfl)

variable {β : Type}
variable {pass : Char → List β}
variable {take : ClickLine → Text → List β}

/- At the start of a line it is read as a text is. -/
theorem collectFrom_lineStart
    {before : Option Char}
    (hBefore : atLineStart before = true)
    (t : Text) :
    Text.collectFrom reader pass take before t =
      Text.collect reader pass take t := by
  cases t with
  | nil => rfl
  | cons c t =>
      have hSame :
          reader before (c :: t) = reader none (c :: t) := by
        rw [reader, hBefore]
        rfl
      rw [Text.collectFrom, Text.collect, Text.cut, Text.cutFrom,
        Text.cutFrom, hSame]

theorem collect_behind
    (next : Option Text) :
    Text.collect reader pass take (Text.behind next) =
      next.elim [] fun u =>
        pass '\n' ++ Text.collect reader pass take u := by
  cases next with
  | none => rfl
  | some u =>
      rw [Text.behind, ← Text.collectFrom_none,
        Text.collectFrom_cons rfl, collectFrom_lineStart rfl]
      rfl

/- The rest of a line is passed over. -/
theorem collectFrom_line
    {before : Option Char}
    (hBefore : atLineStart before = false)
    {l : Text}
    (hl : '\n' ∉ l)
    (next : Option Text) :
    Text.collectFrom reader pass take before
        (l ++ Text.behind next) =
      l.flatMap pass ++
        Text.collect reader pass take (Text.behind next) := by
  have hNone :
      ∀ before t, atLineStart before = false →
        reader before t = none := by
    intro before t hBefore
    rw [reader, hBefore]
    rfl
  induction l generalizing before with
  | nil =>
      cases next with
      | none => rfl
      | some u =>
          rw [List.nil_append, Text.behind,
            Text.collectFrom_cons (hNone before _ hBefore),
            collectFrom_lineStart rfl]
          exact (collect_behind (some u)).symm
  | cons c l ih =>
      have hc : '\n' ≠ c ∧ '\n' ∉ l := by
        simpa using hl
      rw [List.cons_append,
        Text.collectFrom_cons (hNone before _ hBefore),
        ih (by simpa [atLineStart] using hc.1.symm) hc.2,
        List.flatMap_cons, List.append_assoc]

/- A line that opens no click line is passed over. -/
theorem collect_unread
    {l : Text}
    {next : Option Text}
    (hl : '\n' ∉ l)
    (hNone : read? (l ++ Text.behind next) = none) :
    Text.collect reader pass take (l ++ Text.behind next) =
      l.flatMap pass ++
        Text.collect reader pass take (Text.behind next) := by
  cases l with
  | nil => rfl
  | cons c l =>
      have hc : '\n' ≠ c ∧ '\n' ∉ l := by
        simpa using hl
      rw [List.cons_append] at hNone ⊢
      have hStart :
          reader none (c :: (l ++ Text.behind next)) = none := by
        rw [reader, hNone]
        rfl
      rw [← Text.collectFrom_none,
        Text.collectFrom_cons hStart,
        collectFrom_line (by simpa [atLineStart] using hc.1.symm)
          hc.2,
        List.flatMap_cons, List.append_assoc]

/- A click line is taken, to the end of its last line. -/
theorem collect_found
    {line : ClickLine}
    (hWritable : line.IsWritable)
    (next : Option Text) :
    Text.collect reader pass take
        (line.render ++ Text.behind next) =
      take line line.render ++
        Text.collect reader pass take (Text.behind next) := by
  have hRead :
      reader none (line.render ++ Text.behind next) =
        some (line, line.render) := by
    rw [reader, read?_eq_some_iff.mpr ⟨hWritable, next, rfl⟩]
    rfl
  have hEnd :
      atLineStart (line.render.getLast?.or none) = false := by
    rcases hWritable.back with ⟨shown, hBack, hShown⟩
    have hNil : '"' :: shown ≠ [] := List.cons_ne_nil _ _
    have hLast : ('"' :: shown).getLast hNil ≠ '\n' := by
      intro hEq
      have hMem := List.getLast_mem hNil
      rw [hEq] at hMem
      simp [hShown] at hMem
    rw [render, hBack, List.getLast?_append,
      List.getLast?_eq_some_getLast hNil]
    simpa [atLineStart] using hLast
  rw [← Text.collectFrom_none,
    Text.collectFrom_of_found hRead (render_ne_nil hWritable)]
  exact congrArg _
    (collectFrom_line hEnd List.not_mem_nil next)

/- Whether all click lines that are read satisfy `p`. -/
def All (p : ClickLine → Prop) (t : Text) : Prop :=
  ∀ found ∈ Text.seen reader t, p found.1

instance
    (p : ClickLine → Prop)
    [DecidablePred p]
    (t : Text) : Decidable (All p t) :=
  inferInstanceAs (Decidable (∀ _ ∈ _, _))

variable {p : ClickLine → Prop}

theorem all_unread
    {l : Text}
    {next : Option Text}
    (hl : '\n' ∉ l)
    (hNone : read? (l ++ Text.behind next) = none) :
    All p (l ++ Text.behind next) ↔ ∀ u ∈ next, All p u := by
  rw [All, Text.seen, collect_unread hl hNone, collect_behind]
  cases next with
  | none => simp
  | some u => simp [All, Text.seen]

theorem all_found
    {line : ClickLine}
    (hWritable : line.IsWritable)
    (next : Option Text) :
    All p (line.render ++ Text.behind next) ↔
      p line ∧ ∀ u ∈ next, All p u := by
  rw [All, Text.seen, collect_found hWritable, collect_behind]
  cases next with
  | none => simp
  | some u => simp [All, Text.seen]

end ClickLine

------------------------------------------------------------
-- Kept Click Lines
------------------------------------------------------------

namespace SourceRepair

variable {repair : SourceRepair}

/- Whether repair keeps the addresses of all click lines. -/
def KeepsClicks (repair : SourceRepair) (t : Text) : Prop :=
  ClickLine.All
    (fun line => repair.repairUrl line.url = .keep) t

theorem repairClicks_eq_collect
    (repair : SourceRepair)
    (t : Text) :
    repair.repairClicks t =
      Text.collect ClickLine.reader (fun c => [c])
        (fun line _ => repair.repairClick line) t :=
  Text.replace_eq_collected
    (fun line _ => repair.repairClick line)
    (t.cut ClickLine.reader)

theorem repairClicks_behind
    (next : Option Text) :
    repair.repairClicks (Text.behind next) =
      Text.behind (next.map repair.repairClicks) := by
  rw [repairClicks_eq_collect, ClickLine.collect_behind]
  cases next with
  | none => rfl
  | some u =>
      rw [Option.map_some, Text.behind, repairClicks_eq_collect]
      rfl

theorem repairClicks_unread
    {l : Text}
    {next : Option Text}
    (hl : '\n' ∉ l)
    (hNone : ClickLine.read? (l ++ Text.behind next) = none) :
    repair.repairClicks (l ++ Text.behind next) =
      l ++ Text.behind (next.map repair.repairClicks) := by
  rw [← repairClicks_behind, repairClicks_eq_collect,
    ClickLine.collect_unread hl hNone, List.flatMap_singleton',
    repairClicks_eq_collect]

theorem repairClicks_found
    {line : ClickLine}
    (hWritable : line.IsWritable)
    (next : Option Text) :
    repair.repairClicks (line.render ++ Text.behind next) =
      repair.repairClick line ++
        Text.behind (next.map repair.repairClicks) := by
  rw [← repairClicks_behind, repairClicks_eq_collect,
    ClickLine.collect_found hWritable, repairClicks_eq_collect]

/- Where all click lines are kept, nothing is changed. -/
theorem repairClicks_eq_self
    {t : Text}
    (h : repair.KeepsClicks t) : repair.repairClicks t = t := by
  have hBehind :
      ∀ next : Option Text,
        (∀ u ∈ next, repair.repairClicks u = u) →
        next.map repair.repairClicks = next := by
    intro next hNext
    cases next with
    | none => rfl
    | some u => rw [Option.map_some, hNext u rfl]
  induction t using ClickLine.line_induction with
  | unread l next hl hNone ih =>
      have h := (ClickLine.all_unread hl hNone).mp h
      rw [repairClicks_unread hl hNone,
        hBehind next fun u hu => ih u hu (h u hu)]
  | found line next hWritable ih =>
      have h := (ClickLine.all_found hWritable next).mp h
      rw [repairClicks_found hWritable, repairClick, h.1,
        hBehind next fun u hu => ih u hu (h.2 u hu)]

------------------------------------------------------------
-- Repaired Click Lines
------------------------------------------------------------

/- An address of click lines that repair keeps. -/
structure KeepsQuoted
    (repair : SourceRepair)
    (url : Text) : Prop where
  kept : repair.repairUrl url = .keep
  quotable : ClickLine.IsQuotable url

instance (repair : SourceRepair) (url : Text) :
    Decidable (repair.KeepsQuoted url) :=
  decidable_of_iff
    (repair.repairUrl url = .keep ∧ ClickLine.IsQuotable url)
    ⟨fun h => ⟨h.1, h.2⟩, fun h => ⟨h.kept, h.quotable⟩⟩

/- Whether repair keeps what it writes into click lines. -/
def SettlesClicks (repair : SourceRepair) (t : Text) : Prop :=
  ClickLine.All
    (fun line =>
      (repair.repairUrl line.url).Writes repair.KeepsQuoted) t

instance (repair : SourceRepair) (t : Text) :
    Decidable (repair.SettlesClicks t) :=
  inferInstanceAs (Decidable (ClickLine.All _ t))

/- Repair writes no quotation mark into a text without one. -/
theorem quote_mem_of_mem_repairClicks
    {t : Text}
    (h : '"' ∈ repair.repairClicks t) : '"' ∈ t := by
  induction t using ClickLine.line_induction with
  | unread l next hl hNone ih =>
      rw [repairClicks_unread hl hNone, List.mem_append] at h
      rw [List.mem_append]
      refine h.imp_right fun hMem => ?_
      cases next with
      | none => cases hMem
      | some u =>
          rw [Option.map_some, Text.behind, List.mem_cons] at hMem
          rw [Text.behind, List.mem_cons]
          exact hMem.imp_right (ih u rfl)
  | found line next hWritable ih =>
      rcases hWritable.back with ⟨shown, hBack, -⟩
      simp [ClickLine.render, hBack]

/- In place of a removed click line stands none. -/
theorem read?_removed
    {indent : Text}
    (hIndent : ClickLine.IsSpacing indent)
    (u : Text) :
    ClickLine.read? (indent ++ removedClick ++ u) = none := by
  have hRun :
      Text.run isSpaceOrTab (indent ++ removedClick ++ u) =
        (indent, removedClick ++ u) := by
    rw [List.append_assoc]
    apply Text.run_append hIndent
    intro c hc
    cases hc
    decide
  rw [ClickLine.read?, hRun]
  rfl

theorem newline_not_mem_removed
    {line : ClickLine}
    (hWritable : line.IsWritable) :
    '\n' ∉ line.indent ++ removedClick := by
  have hHead := ClickLine.newline_not_mem_head hWritable.head
  have hRemoved : '\n' ∉ removedClick := by
    decide
  rw [List.mem_append, not_or] at hHead ⊢
  exact ⟨hHead.1, hRemoved⟩

/- After repair all click lines are kept. -/
theorem keepsClicks_repairClicks
    {t : Text}
    (h : repair.SettlesClicks t) :
    repair.KeepsClicks (repair.repairClicks t) := by
  induction t using ClickLine.line_induction with
  | unread l next hl hNone ih =>
      have hLater := (ClickLine.all_unread hl hNone).mp h
      have hQuote :
          '"' ∈ Text.behind (next.map repair.repairClicks) →
            '"' ∈ Text.behind next := by
        rw [← repairClicks_behind]
        exact quote_mem_of_mem_repairClicks
      rw [repairClicks_unread hl hNone]
      refine (ClickLine.all_unread hl
        (ClickLine.read?_eq_none hNone hQuote)).mpr ?_
      exact Option.forall_mem_map.mpr fun u hu =>
        ih u hu (hLater u hu)
  | found line next hWritable ih =>
      rcases (ClickLine.all_found hWritable next).mp h with
        ⟨hSettles, hLater⟩
      have hNext :
          ∀ u ∈ next.map repair.repairClicks,
            repair.KeepsClicks u :=
        Option.forall_mem_map.mpr fun u hu =>
          ih u hu (hLater u hu)
      rw [repairClicks_found hWritable, repairClick]
      cases hVerdict : repair.repairUrl line.url with
      | keep =>
          exact (ClickLine.all_found hWritable _).mpr
            ⟨hVerdict, hNext⟩
      | remove =>
          exact (ClickLine.all_unread
            (newline_not_mem_removed hWritable)
            (read?_removed hWritable.head.1 _)).mpr hNext
      | replace url =>
          rw [hVerdict] at hSettles
          have hReplaced :
              ClickLine.IsWritable { line with url } :=
            ⟨hWritable.head, hSettles.quotable, hWritable.back⟩
          exact (ClickLine.all_found hReplaced _).mpr
            ⟨hSettles.kept, hNext⟩

end SourceRepair

end SourceDocs
