import SourceDocs.Proofs.SourceUrl.StandInRepair
import SourceDocs.Proofs.Text.Lines

/-
  Reading click lines.

  A click line is a head up to a quotation mark, a web
  address up to the next one, and the rest of the line that
  this one stands in. Of what stands behind its first line
  only that there is a quotation mark makes a difference.

  Key definitions include:
    * `SourceDocs.ClickLine.IsHead`
    * `SourceDocs.ClickLine.IsQuotable`
    * `SourceDocs.ClickLine.IsWritable`

  Main results:
    * `SourceDocs.ClickLine.read?_eq_some_iff`
    * `SourceDocs.ClickLine.exists_opening`
    * `SourceDocs.ClickLine.read?_eq_none`
-/

------------------------------------------------------------
-- Heads
------------------------------------------------------------

namespace SourceDocs

namespace ClickLine

/- Whether a text is made of spaces and tabs. -/
def IsSpacing (t : Text) : Prop :=
  ∀ c ∈ t, isSpaceOrTab c = true

/- The word that announces an address, or nothing. -/
def IsAnnouncement (t : Text) : Prop :=
  t = [] ∨
    ∃ blanks, blanks ≠ [] ∧ IsSpacing blanks ∧
      t = "href".toList ++ blanks

/- What stands in a click line up to the address. -/
def IsHead (indent front : Text) : Prop :=
  IsSpacing indent ∧
    ∃ blanks node gap announced,
      blanks ≠ [] ∧ IsSpacing blanks ∧
      node ≠ [] ∧ (∀ c ∈ node, isWord c = true) ∧
      gap ≠ [] ∧ IsSpacing gap ∧
      IsAnnouncement announced ∧
      front =
        "click".toList ++ blanks ++ node ++ gap ++ announced ++
          ['"']

/- In front of a quotation mark stands the whole of it. -/
theorem announcement_eq_iff
    {t x u : Text} :
    announcement t = (x, '"' :: u) ↔
      IsAnnouncement x ∧ t = x ++ '"' :: u := by
  constructor
  · intro h
    rw [announcement] at h
    split at h
    · next blanks rest hSome =>
        rw [Option.bind_eq_some_iff] at hSome
        rcases hSome with ⟨t', hAfter, hRun⟩
        cases Text.eq_append_of_after? hAfter
        rcases Text.run?_eq_some_iff.mp hRun with
          ⟨rfl, hNil, hAll, -⟩
        cases h
        exact ⟨Or.inr ⟨blanks, hNil, hAll, rfl⟩,
          (List.append_assoc _ _ _).symm⟩
    · cases h
      exact ⟨Or.inl rfl, rfl⟩
  · rintro ⟨hAnnounced, rfl⟩
    rcases hAnnounced with rfl | ⟨blanks, hNil, hAll, rfl⟩
    · rfl
    · have hRun :
          Text.run? isSpaceOrTab (blanks ++ '"' :: u) =
            some (blanks, '"' :: u) := by
        refine Text.run?_eq_some_iff.mpr
          ⟨rfl, hNil, hAll, fun c hc => ?_⟩
        cases hc
        decide
      rw [announcement, List.append_assoc, Text.after?_append,
        Option.bind_some, hRun]

/- An address in quotation marks. -/
def IsQuotable (url : Text) : Prop :=
  ∃ scheme ∈ StandInUrl.schemes, ∃ address,
    url = scheme ++ address ∧ address ≠ [] ∧ '"' ∉ address

theorem isQuotable_iff
    {url : Text} :
    IsQuotable url ↔
      ∃ parts ∈ webScheme? url, parts.2 ≠ [] ∧ '"' ∉ parts.2 := by
  simp only [IsQuotable, Option.mem_def, Prod.exists,
    StandInUrl.webScheme?_eq_some_iff]
  constructor
  · rintro ⟨scheme, hScheme, address, rfl, hNil, hFree⟩
    exact ⟨scheme, address, ⟨hScheme, rfl⟩, hNil, hFree⟩
  · rintro ⟨scheme, address, ⟨hScheme, rfl⟩, hNil, hFree⟩
    exact ⟨scheme, hScheme, address, rfl, hNil, hFree⟩

instance (url : Text) : Decidable (IsQuotable url) :=
  decidable_of_iff _ isQuotable_iff.symm

/- A click line, as it can be written. -/
structure IsWritable (line : ClickLine) : Prop where
  head : IsHead line.indent line.front
  web : IsQuotable line.url
  back : ∃ shown, line.back = '"' :: shown ∧ '\n' ∉ shown

------------------------------------------------------------
-- Reading Lines
------------------------------------------------------------

/- The parts that are read one after another. -/
theorem isWritable_of_read?
    {t : Text}
    {line : ClickLine}
    (h : read? t = some line) :
    line.IsWritable ∧
      ∃ next, t = line.render ++ Text.behind next := by
  simp only [read?, bind, Option.bind_eq_some_iff,
    Prod.exists] at h
  rcases h with
    ⟨t₁, hClick, blanks, t₂, hBlanks, node, t₃, hNode, gap, t₄,
      hGap, t₅, hQuote, scheme, t₆, hScheme, address, t₇,
      hAddress, t₈, hClose, hLine⟩
  rcases hIndent : Text.run isSpaceOrTab t with ⟨indent, t₀⟩
  rcases hAnnounced : announcement t₄ with ⟨announced, t₄'⟩
  rw [hIndent] at hClick hLine
  rw [hAnnounced] at hQuote hLine
  rcases Text.eq_append_of_after? hClick with rfl
  rcases (Text.eq_append_of_after? hQuote).trans
    List.singleton_append with rfl
  rcases (Text.eq_append_of_after? hClose).trans
    List.singleton_append with rfl
  rcases announcement_eq_iff.mp hAnnounced with
    ⟨hAnnouncement, rfl⟩
  rcases StandInUrl.webScheme?_eq_some_iff.mp hScheme with
    ⟨hMem, rfl⟩
  rcases Text.run_eq_iff.mp hIndent with ⟨rfl, hIndents, -⟩
  rcases Text.run?_eq_some_iff.mp hBlanks with
    ⟨rfl, hBlanksNil, hBlanksAll, -⟩
  rcases Text.run?_eq_some_iff.mp hNode with
    ⟨rfl, hNodeNil, hNodeAll, -⟩
  rcases Text.run?_eq_some_iff.mp hGap with
    ⟨rfl, hGapNil, hGapAll, -⟩
  rcases Text.run?_eq_some_iff.mp hAddress with
    ⟨rfl, hAddressNil, hAddressAll, -⟩
  rcases Text.exists_line t₈ with ⟨shown, next, hShown, rfl⟩
  rw [Text.takeWhile_line hShown, Option.some.injEq] at hLine
  subst hLine
  have hFree : '"' ∉ address := by
    intro hMem
    exact absurd (hAddressAll '"' hMem) (by decide)
  refine ⟨⟨⟨hIndents, blanks, node, gap, announced, hBlanksNil,
      hBlanksAll, hNodeNil, hNodeAll, hGapNil, hGapAll,
      hAnnouncement, rfl⟩,
    ⟨scheme, hMem, address, rfl, hAddressNil, hFree⟩,
    shown, rfl, hShown⟩, next, ?_⟩
  simp only [render, List.append_assoc, List.cons_append,
    List.nil_append]

/-
  Behind a head the address and the rest of the line are
  read: each part of a head stops where the next one starts.
-/
theorem read?_head_append
    {indent front : Text}
    (h : IsHead indent front)
    (t : Text) :
    read? (indent ++ front ++ t) =
      (do
        let (scheme, t) ← webScheme? t
        let (address, t) ← Text.run? (· != '"') t
        let t ← Text.after? ['"'] t
        some
          { indent
            front
            url := scheme ++ address
            back := '"' :: t.takeWhile (· != '\n') }) := by
  rcases h with
    ⟨hIndent, blanks, node, gap, announced, hBlanksNil, hBlanks,
      hNodeNil, hNode, hGapNil, hGap, hAnnounced, rfl⟩
  have hAnnouncedStop :
      ∀ u c, (announced ++ '"' :: u).head? = some c →
        isSpaceOrTab c = false := by
    rintro u c hc
    rcases hAnnounced with rfl | ⟨blanks, -, -, rfl⟩
    · cases hc
      decide
    · cases hc
      decide
  have hIndentRun :
      ∀ u, Text.run isSpaceOrTab
          (indent ++ ("click".toList ++ u)) =
        (indent, "click".toList ++ u) := fun u =>
    Text.run_append hIndent
      (Text.stops_append (by decide) (q := isWord) (by decide)
        isSpaceOrTab_of_isWord u)
  have hBlanksRun :
      ∀ u, Text.run? isSpaceOrTab (blanks ++ (node ++ u)) =
        some (blanks, node ++ u) := fun u =>
    Text.run?_append hBlanksNil hBlanks
      (Text.stops_append hNodeNil hNode isSpaceOrTab_of_isWord u)
  have hNodeRun :
      ∀ u, Text.run? isWord (node ++ (gap ++ u)) =
        some (node, gap ++ u) := fun u =>
    Text.run?_append hNodeNil hNode
      (Text.stops_append hGapNil hGap isWord_of_isSpaceOrTab u)
  have hGapRun :
      ∀ u, Text.run? isSpaceOrTab
          (gap ++ (announced ++ '"' :: u)) =
        some (gap, announced ++ '"' :: u) := fun u =>
    Text.run?_append hGapNil hGap (hAnnouncedStop u)
  have hAnnouncedRun :
      ∀ u, announcement (announced ++ '"' :: u) =
        (announced, '"' :: u) := fun u =>
    announcement_eq_iff.mpr ⟨hAnnounced, rfl⟩
  have hQuote :
      ∀ u : Text, Text.after? ['"'] ('"' :: u) = some u :=
    fun _ => rfl
  simp only [read?, List.append_assoc, List.cons_append,
    List.nil_append, bind, Option.bind_some, hIndentRun,
    Text.after?_append, hBlanksRun, hNodeRun, hGapRun,
    hAnnouncedRun, hQuote]

theorem read?_of_isWritable
    {line : ClickLine}
    (h : line.IsWritable)
    (next : Option Text) :
    read? (line.render ++ Text.behind next) = some line := by
  rcases line with ⟨indent, front, url, back⟩
  rcases h with
    ⟨hHead, ⟨scheme, hScheme, address, rfl, hNil, hFree⟩, shown,
      rfl, hShown⟩
  have hAddress : ∀ c ∈ address, (c != '"') = true := by
    intro c hc
    simpa using ne_of_mem_of_not_mem hc hFree
  have hAddressRun :
      ∀ u, Text.run? (· != '"') (address ++ '"' :: u) =
        some (address, '"' :: u) := by
    intro u
    apply Text.run?_append hNil hAddress
    intro c hc
    cases hc
    decide
  have hSchemeRun :
      ∀ u, webScheme? (scheme ++ u) = some (scheme, u) := fun u =>
    StandInUrl.webScheme?_eq_some_iff.mpr ⟨hScheme, rfl⟩
  have hQuote :
      ∀ u : Text, Text.after? ['"'] ('"' :: u) = some u :=
    fun _ => rfl
  have hText :
      indent ++ front ++ (scheme ++ address) ++ '"' :: shown ++
          Text.behind next =
        indent ++ front ++
          (scheme ++ (address ++
            '"' :: (shown ++ Text.behind next))) := by
    simp only [List.append_assoc, List.cons_append]
  rw [render, hText, read?_head_append hHead]
  simp only [bind, Option.bind_some, hSchemeRun, hAddressRun,
    hQuote, Text.takeWhile_line hShown]

/- Click lines are read as they are written. -/
theorem read?_eq_some_iff
    {t : Text}
    {line : ClickLine} :
    read? t = some line ↔
      line.IsWritable ∧
        ∃ next, t = line.render ++ Text.behind next := by
  constructor
  · exact isWritable_of_read?
  · rintro ⟨hWritable, next, rfl⟩
    exact read?_of_isWritable hWritable next

------------------------------------------------------------
-- First Lines
------------------------------------------------------------

/- The head and the scheme stand on one line. -/
theorem newline_not_mem_head
    {indent front : Text}
    (h : IsHead indent front) : '\n' ∉ indent ++ front := by
  rcases h with
    ⟨hIndent, blanks, node, gap, announced, -, hBlanks, -, hNode,
      -, hGap, hAnnounced, rfl⟩
  have hSpacing :
      ∀ {t : Text}, IsSpacing t → '\n' ∉ t := by
    intro t ht hMem
    exact absurd (ht _ hMem) (by decide)
  have hNodeFree : '\n' ∉ node := by
    intro hMem
    exact absurd (hNode _ hMem) (by decide)
  have hAnnouncedFree : '\n' ∉ announced := by
    rcases hAnnounced with rfl | ⟨blanks, -, hBlanks, rfl⟩
    · simp
    · simpa using hSpacing hBlanks
  simp [hSpacing hIndent, hSpacing hBlanks, hNodeFree,
    hSpacing hGap, hAnnouncedFree]

theorem newline_not_mem_scheme :
    ∀ scheme ∈ StandInUrl.schemes, '\n' ∉ scheme := by
  decide

/-
  A click line that is read from a line opens there; it goes
  on to the first quotation mark, on that line or later.
-/
theorem exists_opening
    {l : Text}
    {r next : Option Text}
    {line : ClickLine}
    (hWritable : line.IsWritable)
    (hText :
      l ++ Text.behind r = line.render ++ Text.behind next) :
    ∃ scheme ∈ StandInUrl.schemes, ∃ l' address shown,
      l = line.indent ++ line.front ++ scheme ++ l' ∧
      line.url = scheme ++ address ∧
      address ≠ [] ∧ '"' ∉ address ∧ '\n' ∉ shown ∧
      l' ++ Text.behind r =
        address ++ '"' :: (shown ++ Text.behind next) := by
  rcases hWritable.web with
    ⟨scheme, hScheme, address, hUrl, hNil, hFree⟩
  rcases hWritable.back with ⟨shown, hBack, hShown⟩
  have hOpening :
      '\n' ∉ line.indent ++ line.front ++ scheme := by
    rw [List.mem_append, not_or]
    exact ⟨newline_not_mem_head hWritable.head,
      newline_not_mem_scheme scheme hScheme⟩
  have hParts :
      line.render ++ Text.behind next =
        (line.indent ++ line.front ++ scheme) ++
          (address ++ '"' :: (shown ++ Text.behind next)) := by
    simp only [render, hUrl, hBack, List.append_assoc,
      List.cons_append]
  rcases Text.exists_of_behind hOpening (hText.trans hParts) with
    ⟨l', hl', hBehind⟩
  exact ⟨scheme, hScheme, l', address, shown, hl', hUrl, hNil,
    hFree, hShown, hBehind.symm⟩

/- Up to the first quotation mark a click line is read. -/
theorem exists_read?_of_head
    {indent front scheme w : Text}
    (hHead : IsHead indent front)
    (hScheme : scheme ∈ StandInUrl.schemes)
    (hQuote : '"' ∈ w)
    (hFirst : w.head? ≠ some '"') :
    ∃ line, read? (indent ++ front ++ scheme ++ w) = some line := by
  rcases Text.exists_quoted_line hQuote with
    ⟨address, shown, next, hFree, hShown, rfl⟩
  have hNil : address ≠ [] := by
    rintro rfl
    exact hFirst rfl
  refine ⟨⟨indent, front, scheme ++ address, '"' :: shown⟩,
    read?_eq_some_iff.mpr ⟨⟨hHead, ?_, ?_⟩, next, ?_⟩⟩
  · exact ⟨scheme, hScheme, address, rfl, hNil, hFree⟩
  · exact ⟨shown, rfl, hShown⟩
  · simp only [render, List.append_assoc, List.cons_append]

/- An address that is not empty does not end with its line. -/
theorem head?_ne_quote
    {l address u : Text}
    {r : Option Text}
    (hBehind : l ++ Text.behind r = address ++ '"' :: u)
    (hNil : address ≠ [])
    (hFree : '"' ∉ address)
    (r' : Option Text) :
    (l ++ Text.behind r').head? ≠ some '"' := by
  intro hHead
  rcases List.exists_cons_of_ne_nil hNil with ⟨c, address, rfl⟩
  cases l with
  | nil =>
      cases r' with
      | none => cases hHead
      | some v => cases hHead
  | cons d l =>
      cases hHead
      have hSame : '"' = c := (List.cons.inj hBehind).1
      exact hFree (hSame ▸ List.mem_cons_self)

/-
  The lines behind the first one make a difference only by
  whether a quotation mark stands in them.
-/
theorem read?_eq_none
    {l : Text}
    {r r' : Option Text}
    (hNone : read? (l ++ Text.behind r) = none)
    (hQuote : '"' ∈ Text.behind r' → '"' ∈ Text.behind r) :
    read? (l ++ Text.behind r') = none := by
  cases hRead : read? (l ++ Text.behind r') with
  | none => rfl
  | some line =>
      rcases read?_eq_some_iff.mp hRead with
        ⟨hWritable, next, hText⟩
      rcases exists_opening hWritable hText with
        ⟨scheme, hScheme, l', address, shown, rfl, -, hNil, hFree,
          -, hBehind⟩
      have hMem : '"' ∈ l' ++ Text.behind r' := by
        simp [hBehind]
      have hMem' : '"' ∈ l' ++ Text.behind r := by
        rw [List.mem_append] at hMem ⊢
        exact hMem.imp_right hQuote
      rcases exists_read?_of_head hWritable.head hScheme hMem'
          (head?_ne_quote hBehind hNil hFree r) with
        ⟨line', hSome⟩
      rw [List.append_assoc, hSome] at hNone
      cases hNone

end ClickLine

end SourceDocs
