import Mathlib.Data.List.Forall2
import SourceDocs.Proofs.SourceUrl.ClickRepair

/-
  Click lines in a text whose other lines are changed.

  Where lines that start as click lines do stay as they are,
  and the others keep to having a quotation mark or none,
  click lines are read at the same places. One that goes on
  over a line end has no address of a file.

  Key definitions include:
    * `SourceDocs.ClickLine.Spares`
    * `SourceDocs.ClickLine.SparesLines`

  Main results:
    * `SourceDocs.SourceRepair.repairUrl_of_blank`
    * `SourceDocs.SourceRepair.keepsClicks_of_sparesLines`
-/

------------------------------------------------------------
-- Spared Lines
------------------------------------------------------------

namespace SourceDocs

namespace ClickLine

/- Whether a line starts as a click line does. -/
def StartsClick (l : Text) : Prop :=
  "click".toList <+: l.dropWhile isSpaceOrTab

instance (l : Text) : Decidable (StartsClick l) :=
  inferInstanceAs (Decidable (_ <+: _))

/-
  Whether a line in the place of another is the same, or
  neither starts as a click line does and both have a
  quotation mark or none.
-/
def Spares (a b : Text) : Prop :=
  a = b ∨ ¬ StartsClick a ∧ ¬ StartsClick b ∧ ('"' ∈ a ↔ '"' ∈ b)

instance (a b : Text) : Decidable (Spares a b) :=
  inferInstanceAs (Decidable (_ ∨ _))

theorem Spares.quote_mem_iff
    {a b : Text}
    (h : Spares a b) : '"' ∈ a ↔ '"' ∈ b := by
  rcases h with rfl | ⟨-, -, hQuote⟩
  · rfl
  · exact hQuote

/- Whether this holds of all lines of two texts. -/
def SparesLines (t u : Text) : Prop :=
  List.Forall₂ Spares (t.splitOn '\n') (u.splitOn '\n')

instance (t u : Text) : Decidable (SparesLines t u) :=
  inferInstanceAs (Decidable (List.Forall₂ _ _ _))

theorem forall₂_splitOn_iff
    {next next' : Option Text} :
    List.Forall₂ Spares (next.elim [] (·.splitOn '\n'))
        (next'.elim [] (·.splitOn '\n')) ↔
      Option.Rel SparesLines next next' := by
  cases next with
  | none =>
      cases next' with
      | none => exact iff_of_true .nil .none
      | some u =>
          refine iff_of_false (fun h => ?_) (by rintro ⟨⟩)
          exact List.splitOn_ne_nil '\n' u
            (List.forall₂_nil_left_iff.mp h)
  | some t =>
      cases next' with
      | none =>
          refine iff_of_false (fun h => ?_) (by rintro ⟨⟩)
          exact List.splitOn_ne_nil '\n' t
            (List.forall₂_nil_right_iff.mp h)
      | some u =>
          constructor
          · exact fun h => .some h
          · rintro ⟨h⟩
            exact h

theorem sparesLines_iff
    {l l' : Text}
    (hl : '\n' ∉ l)
    (hl' : '\n' ∉ l')
    (next next' : Option Text) :
    SparesLines (l ++ Text.behind next)
        (l' ++ Text.behind next') ↔
      Spares l l' ∧ Option.Rel SparesLines next next' := by
  rw [SparesLines, Text.splitOn_line hl, Text.splitOn_line hl',
    List.forall₂_cons, forall₂_splitOn_iff]

theorem exists_mem_of_rel
    {next next' : Option Text}
    (h : Option.Rel SparesLines next next')
    {t : Text}
    (ht : t ∈ next) : ∃ u ∈ next', SparesLines t u := by
  cases h with
  | none => cases ht
  | some hLines =>
      cases ht
      exact ⟨_, rfl, hLines⟩

theorem SparesLines.quote_mem_iff
    {t u : Text}
    (h : SparesLines t u) : '"' ∈ t ↔ '"' ∈ u := by
  induction t using Text.line_induction generalizing u with
  | line l next hl ih =>
      rcases Text.exists_line u with ⟨l', next', hl', rfl⟩
      rcases (sparesLines_iff hl hl' next next').mp h with
        ⟨hSpares, hNext⟩
      rw [List.mem_append, List.mem_append,
        hSpares.quote_mem_iff]
      cases hNext with
      | none => rfl
      | some hLines =>
          rw [Text.behind, Text.behind, List.mem_cons,
            List.mem_cons, ih _ rfl hLines]

/-
  Behind the line of the first quotation mark the lines go
  on one by one.
-/
theorem SparesLines.exists_quoted_line
    {address shown u : Text}
    {next : Option Text}
    (hFree : '"' ∉ address)
    (hShown : '\n' ∉ shown)
    (h :
      SparesLines (address ++ '"' :: (shown ++ Text.behind next))
        u) :
    ∃ address' shown' next', '"' ∉ address' ∧ '\n' ∉ shown' ∧
      u = address' ++ '"' :: (shown' ++ Text.behind next') ∧
      Option.Rel SparesLines next next' := by
  induction address using Text.line_induction generalizing u with
  | line l r hl ih =>
      rcases Text.exists_line u with ⟨l', r', hl', rfl⟩
      cases r with
      | none =>
          have hLine : '\n' ∉ l ++ '"' :: shown := by
            simp [hl, hShown]
          rw [Text.behind, List.append_nil, ← List.cons_append,
            ← List.append_assoc, sparesLines_iff hLine hl'] at h
          have hMem : '"' ∈ l' := by
            rw [← h.1.quote_mem_iff]
            simp
          rcases List.eq_append_cons_of_mem hMem with
            ⟨address', shown', rfl, hFree'⟩
          have hShown' : '\n' ∉ shown' := by
            rw [List.mem_append, List.mem_cons, not_or, not_or]
              at hl'
            exact hl'.2.2
          exact ⟨address', shown', r', hFree', hShown', by simp,
            h.2⟩
      | some address =>
          rw [Text.behind, List.mem_append, not_or] at hFree
          have hText :
              l ++ Text.behind (some address) ++
                  '"' :: (shown ++ Text.behind next) =
                l ++ Text.behind
                  (some (address ++
                    '"' :: (shown ++ Text.behind next))) := by
            simp [Text.behind]
          rw [hText, sparesLines_iff hl hl'] at h
          rcases h with ⟨hSpares, ⟨hNext⟩⟩
          have hRest : '"' ∉ address := fun hIn =>
            hFree.2 (List.mem_cons_of_mem _ hIn)
          rcases ih address rfl hRest hNext with
            ⟨address', shown', next', hFree', hShown', rfl, hRel⟩
          have hLine : '"' ∉ l' := by
            rw [← hSpares.quote_mem_iff]
            exact hFree.1
          refine ⟨l' ++ '\n' :: address', shown', next', ?_,
            hShown', ?_, hRel⟩
          · simp [hLine, hFree']
          · simp [Text.behind]

/- Where no click line starts, none is read. -/
theorem startsClick_of_read?
    {l : Text}
    {r : Option Text}
    {line : ClickLine}
    (h : read? (l ++ Text.behind r) = some line) :
    StartsClick l := by
  rcases read?_eq_some_iff.mp h with ⟨hWritable, next, hText⟩
  rcases exists_opening hWritable hText with
    ⟨scheme, -, l', address, shown, rfl, -⟩
  rcases hWritable.head with
    ⟨hIndent, blanks, node, gap, announced, -, -, -, -, -, -, -,
      hFront⟩
  have hWord : ∀ c ∈ "click".toList, isWord c = true := by
    decide
  have hWordNil : "click".toList ≠ [] := by
    decide
  have hRun :=
    Text.run_append hIndent
      (Text.stops_append hWordNil hWord
        isSpaceOrTab_of_isWord
        (blanks ++ node ++ gap ++ announced ++ ['"'] ++ scheme ++
          l'))
  have hDrop := congrArg Prod.snd hRun
  rw [StartsClick, hFront]
  refine ⟨_, Eq.trans hDrop.symm ?_⟩
  simp only [Text.run, List.append_assoc]

/- A line that is passed over is so in the other text. -/
theorem SparesLines.exists_unread
    {l u : Text}
    {next : Option Text}
    (hl : '\n' ∉ l)
    (hNone : read? (l ++ Text.behind next) = none)
    (h : SparesLines (l ++ Text.behind next) u) :
    ∃ l' next', '\n' ∉ l' ∧ u = l' ++ Text.behind next' ∧
      read? (l' ++ Text.behind next') = none ∧
      Option.Rel SparesLines next next' := by
  rcases Text.exists_line u with ⟨l', next', hl', rfl⟩
  rcases (sparesLines_iff hl hl' next next').mp h with
    ⟨hSpares, hNext⟩
  refine ⟨l', next', hl', rfl, ?_, hNext⟩
  rcases hSpares with rfl | ⟨-, hStarts, -⟩
  · apply read?_eq_none hNone
    cases hNext with
    | none => exact id
    | some hLines =>
        simp [Text.behind, hLines.quote_mem_iff]
  · cases hRead : read? (l' ++ Text.behind next') with
    | none => rfl
    | some line => exact absurd (startsClick_of_read? hRead) hStarts

/-
  In place of a click line stands one; if its address does
  not go on over a line end, it has the same address.
-/
theorem SparesLines.exists_found
    {line : ClickLine}
    {next : Option Text}
    {u : Text}
    (hWritable : line.IsWritable)
    (h : SparesLines (line.render ++ Text.behind next) u) :
    ∃ (line' : ClickLine) (next' : Option Text),
      line'.IsWritable ∧ u = line'.render ++ Text.behind next' ∧
      Option.Rel SparesLines next next' ∧
      ('\n' ∉ line.url → line'.url = line.url) := by
  rcases Text.exists_line (line.render ++ Text.behind next) with
    ⟨l, r, hl, hText⟩
  rcases Text.exists_line u with ⟨l', r', hl', rfl⟩
  rw [hText, sparesLines_iff hl hl'] at h
  rcases h with ⟨hSpares, hRel⟩
  have hRead : read? (l ++ Text.behind r) = some line :=
    read?_eq_some_iff.mpr ⟨hWritable, next, hText.symm⟩
  have hSame : l = l' := by
    rcases hSpares with hSame | ⟨hStarts, -⟩
    · exact hSame
    · exact absurd (startsClick_of_read? hRead) hStarts
  subst hSame
  rcases exists_opening hWritable hText.symm with
    ⟨scheme, hScheme, rest, address, shown, hLine, hUrl, hNil,
      hFree, hShown, hBehind⟩
  have hRestFree : '\n' ∉ rest := fun hIn =>
    hl (hLine ▸ List.mem_append_right _ hIn)
  have hLines :=
    (sparesLines_iff hRestFree hRestFree r r').mpr
      ⟨Or.inl rfl, hRel⟩
  rw [hBehind] at hLines
  rcases hLines.exists_quoted_line hFree hShown with
    ⟨address', shown', next', hFree', hShown', hBehind', hNext⟩
  have hNil' : address' ≠ [] := by
    rintro rfl
    exact head?_ne_quote hBehind hNil hFree r' (by simp [hBehind'])
  refine ⟨⟨line.indent, line.front, scheme ++ address',
    '"' :: shown'⟩, next', ?_, ?_, hNext, ?_⟩
  · exact ⟨hWritable.head,
      ⟨scheme, hScheme, address', rfl, hNil', hFree'⟩,
      shown', rfl, hShown'⟩
  · rw [hLine, List.append_assoc, hBehind']
    simp only [render, List.append_assoc, List.cons_append]
  · intro hUrlFree
    rw [hUrl]
    have hAddressFree : '\n' ∉ address ++ ['"'] := by
      rw [hUrl, List.mem_append, not_or] at hUrlFree
      simp [hUrlFree.2]
    have hQuoted :
        rest ++ Text.behind r =
          address ++ ['"'] ++ (shown ++ Text.behind next) := by
      rw [hBehind, List.append_assoc]
      rfl
    rcases Text.exists_of_behind hAddressFree hQuoted with
      ⟨rest', rfl, -⟩
    rw [List.append_assoc, List.append_assoc] at hBehind'
    rw [(Text.append_mark_inj hFree hFree' hBehind').1]

end ClickLine

------------------------------------------------------------
-- URLs With Blanks
------------------------------------------------------------

namespace BlobUrl

open HostedRepository (blobMark)

theorem not_blank_of_isPlain
    {c : Char}
    (h : isPlain c = true) : isBlank c = false := by
  rw [isPlain, Bool.and_eq_true, Bool.not_eq_true'] at h
  exact h.1

theorem not_blank_of_isNameChar
    {c : Char}
    (h : isNameChar c = true) : isBlank c = false := by
  rw [isNameChar, Bool.and_eq_true] at h
  exact not_blank_of_isPlain h.1

theorem not_blank_of_isQueryChar
    {c : Char}
    (h : isQueryChar c = true) : isBlank c = false := by
  rw [isQueryChar, isFragmentChar, Bool.and_eq_true,
    Bool.and_eq_true] at h
  exact not_blank_of_isPlain h.1.1

theorem not_blank_of_isPathChar
    {c : Char}
    (h : isPathChar c = true) : isBlank c = false := by
  rw [isPathChar, Bool.and_eq_true] at h
  exact not_blank_of_isQueryChar h.1

/- What follows a path has no blanks. -/
theorem not_blank_of_fragment?
    {rest : Text}
    {fragment : Option Text}
    (h : fragment? (skipQuery rest) = some fragment) :
    ∀ c ∈ rest, isBlank c = false := by
  have hFragment :
      ∀ t : Text, fragment? t = some fragment →
        ∀ c ∈ t, isBlank c = false := by
    intro t ht
    rw [fragment?.eq_def] at ht
    split at ht
    · simp
    · split_ifs at ht with hAll
      rw [List.all_eq_true] at hAll
      simp only [List.forall_mem_cons]
      refine ⟨by decide, fun c hc => ?_⟩
      have hc := hAll c hc
      rw [isFragmentChar, Bool.and_eq_true] at hc
      exact not_blank_of_isPlain hc.1
    · cases ht
  rw [skipQuery.eq_def] at h
  split at h
  · next t =>
      have hQuery :
          ∀ c ∈ t.takeWhile isQueryChar, isBlank c = false :=
        fun c hc =>
          not_blank_of_isQueryChar (List.mem_takeWhile_imp hc)
      rw [← List.takeWhile_append_dropWhile (p := isQueryChar)
        (l := t)]
      simp only [List.forall_mem_cons, List.forall_mem_append]
      exact ⟨by decide, hQuery, hFragment _ h⟩
  · exact hFragment rest h

/- A blob URL has no blanks. -/
theorem not_blank_of_ofText?
    {t : Text}
    {url : BlobUrl}
    (h : ofText? t = some url) :
    ∀ c ∈ t, isBlank c = false := by
  rcases exists_runs_of_ofText? h with
    ⟨front, owner, name, rest, hHost, hOwner, hName, hBranch,
      hPath, hFragment⟩
  rcases StandInUrl.hosted?_eq_some_iff.mp hHost with
    ⟨scheme, hScheme, rfl, rfl⟩
  have hFront :
      ∀ scheme ∈ StandInUrl.schemes,
        ∀ c ∈ scheme ++ repositoryHost, isBlank c = false := by
    decide
  have hMark : ∀ c ∈ blobMark, isBlank c = false := by
    decide
  have hSlash : isBlank '/' = false := by
    decide
  simp only [List.forall_mem_append, List.forall_mem_cons]
  have hFront := List.forall_mem_append.mp (hFront scheme hScheme)
  refine ⟨hFront, ?_, hSlash, ?_, hMark, ?_, hSlash, ?_,
    not_blank_of_fragment? hFragment⟩
  · exact fun c hc => not_blank_of_isNameChar (hOwner c hc)
  · exact fun c hc => not_blank_of_isNameChar (hName c hc)
  · exact fun c hc => not_blank_of_isNameChar (hBranch c hc)
  · exact fun c hc => not_blank_of_isPathChar (hPath c hc)

end BlobUrl

namespace SourceRepair

variable {repair : SourceRepair}

/- A URL with a blank is kept if its stand-ins are. -/
theorem repairUrl_of_blank
    {url : Text}
    {c : Char}
    (hMem : c ∈ url)
    (hBlank : isBlank c = true)
    (hKept : repair.KeepsStandIns url) :
    repair.repairUrl url = .keep := by
  cases hSeen : Text.seen StandInUrl.reader url with
  | cons found rest =>
      rcases found with ⟨v, x⟩
      rw [repairUrl_of_seen_cons hSeen]
      exact hKept (v, x) (by simp [hSeen])
  | nil =>
      rw [repairUrl_of_seen_nil hSeen]
      cases hBlob : BlobUrl.ofText? url with
      | none => rfl
      | some blob =>
          have hNot := BlobUrl.not_blank_of_ofText? hBlob c hMem
          rw [hBlank] at hNot
          cases hNot

/- What stands around an end has the stand-ins of a text. -/
theorem keepsStandIns_append_cons
    {c : Char}
    (hc : StandInUrl.isRestChar c = false)
    {s t : Text}
    (h : repair.KeepsStandIns (s ++ c :: t)) :
    repair.KeepsStandIns s ∧ repair.KeepsStandIns t := by
  have hOther : c ≠ 'h' := by
    rintro rfl
    cases hc
  rw [KeepsStandIns,
    StandInUrl.seen_append_of_ends (StandInUrl.ends_cons hc t),
    StandInUrl.seen_cons (StandInUrl.reader_of_ne hOther t),
    List.forall_mem_append] at h
  exact h

------------------------------------------------------------
-- Click Lines In Spared Texts
------------------------------------------------------------

/- The address of a click line stands between two ends. -/
theorem keepsStandIns_url
    {line : ClickLine}
    (hWritable : line.IsWritable)
    {w : Text}
    (h : repair.KeepsStandIns (line.render ++ w)) :
    repair.KeepsStandIns line.url := by
  rcases hWritable.head with
    ⟨-, blanks, node, gap, announced, -, -, -, -, -, -, -, hFront⟩
  rcases hWritable.back with ⟨shown, hBack, -⟩
  have hQuote : StandInUrl.isRestChar '"' = false := by
    decide
  have hText :
      line.render ++ w =
        (line.indent ++ "click".toList ++ blanks ++ node ++ gap ++
          announced) ++
            '"' :: (line.url ++ '"' :: (shown ++ w)) := by
    simp only [ClickLine.render, hFront, hBack, List.append_assoc,
      List.cons_append, List.nil_append]
  rw [hText] at h
  exact (keepsStandIns_append_cons hQuote
    (keepsStandIns_append_cons hQuote h).2).1

theorem keepsStandIns_next
    {s t : Text}
    {next : Option Text}
    (h : repair.KeepsStandIns (s ++ Text.behind next))
    (hNext : t ∈ next) : repair.KeepsStandIns t := by
  cases hNext
  exact (keepsStandIns_append_cons (by decide) h).2

/-
  If lines that start as click lines do are spared, and all
  stand-ins are kept, so are the click lines.
-/
theorem keepsClicks_of_sparesLines
    {t u : Text}
    (hLines : ClickLine.SparesLines t u)
    (hClicks : repair.KeepsClicks u)
    (hStandIns : repair.KeepsStandIns t) :
    repair.KeepsClicks t := by
  induction t using ClickLine.line_induction generalizing u with
  | unread l next hl hNone ih =>
      rcases hLines.exists_unread hl hNone with
        ⟨l', next', hl', rfl, hNone', hNext⟩
      have hLater := (ClickLine.all_unread hl' hNone').mp hClicks
      refine (ClickLine.all_unread hl hNone).mpr fun t ht => ?_
      rcases ClickLine.exists_mem_of_rel hNext ht with
        ⟨u, hu, hRest⟩
      exact ih t ht hRest (hLater u hu)
        (keepsStandIns_next hStandIns ht)
  | found line next hWritable ih =>
      rcases hLines.exists_found hWritable with
        ⟨line', next', hWritable', rfl, hNext, hUrl⟩
      rcases (ClickLine.all_found hWritable' next').mp hClicks
        with ⟨hKept, hLater⟩
      refine (ClickLine.all_found hWritable next).mpr
        ⟨?_, fun t ht => ?_⟩
      · by_cases hBlank : '\n' ∈ line.url
        · exact repairUrl_of_blank hBlank (by decide)
            (keepsStandIns_url hWritable hStandIns)
        · rwa [hUrl hBlank] at hKept
      · rcases ClickLine.exists_mem_of_rel hNext ht with
          ⟨u, hu, hRest⟩
        exact ih t ht hRest (hLater u hu)
          (keepsStandIns_next hStandIns ht)

end SourceRepair

end SourceDocs
