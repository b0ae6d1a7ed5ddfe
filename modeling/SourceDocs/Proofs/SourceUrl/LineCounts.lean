import SourceDocs.Proofs.SourceUrl.ClickRepair
import SourceDocs.Proofs.SourceUrl.ForeignUrls
import SourceDocs.Proofs.Text.LineEnds

/-
  How many lines a text has after its source URLs are
  repaired.

  What is read in a URL has no line end, and so neither has
  a URL that is built for it. Links and stand-ins keep the
  line ends of a text. A click line loses those in its
  address if that does not stay: the address goes on to the
  next quotation mark, which may be on a later line.

  Key definitions include:
    * `SourceDocs.SourceRepair.IsOneLine`
    * `SourceDocs.SourceRepair.lostLineEnds`

  Main results:
    * `SourceDocs.SourceRepair.newline_not_mem_of_replace`
    * `SourceDocs.SourceRepair.lineEnds_repairClicks`
    * `SourceDocs.SourceRepair.lineEnds_repairText_eq_iff`
-/

------------------------------------------------------------
-- Templates
------------------------------------------------------------

namespace SourceDocs

namespace UrlTemplate

/- Leaving out the fragment with a line adds nothing. -/
theorem mem_of_mem_dropLineFragment
    {format : Text}
    {c : Char}
    (hc : c ∈ dropLineFragment format) : c ∈ format := by
  unfold dropLineFragment at hc
  split at hc
  · exact hc
  · next before after hCut =>
      rw [Text.eq_append_of_cutAt? hCut]
      split at hc
      · rcases List.mem_append.mp hc with hc | hc
        · exact List.mem_append_left _ hc
        · simp [hc]
      · next start fragment hLast =>
          rcases Text.eq_append_of_cutAtLast? hLast with
            ⟨mark, rfl⟩
          rcases List.mem_append.mp hc with hc | hc
          · simp [hc]
          · simp [hc]

theorem newline_not_mem_fillLine
    {format : Text}
    (hFormat : '\n' ∉ format)
    (line : Option Nat) : '\n' ∉ fillLine format line := by
  intro hMem
  cases line with
  | none => exact hFormat (mem_of_mem_dropLineFragment hMem)
  | some n =>
      rcases Text.mem_replaceAll hMem with hNumber | hOld
      · have hDigit :=
          Nat.isDigit_of_mem_toDigits (by decide) (by decide)
            hNumber
        exact absurd hDigit (by decide)
      · exact hFormat hOld

/- What is filled in on one line gives a URL on one line. -/
theorem newline_not_mem_buildOn
    {template : UrlTemplate}
    {branch path : Text}
    (hRepository : '\n' ∉ template.repository)
    (hFormat : '\n' ∉ template.format)
    (hBranch : '\n' ∉ branch)
    (hPath : '\n' ∉ path)
    (line : Option Nat) :
    '\n' ∉ template.buildOn branch path line := by
  intro hMem
  unfold buildOn at hMem
  rcases Text.mem_replaceAll hMem with hMem | hMem
  · exact hPath ((List.dropWhile_suffix _).subset hMem)
  rcases Text.mem_replaceAll hMem with hMem | hMem
  · exact hBranch hMem
  rcases Text.mem_replaceAll hMem with hMem | hMem
  · exact hRepository hMem
  · exact newline_not_mem_fillLine hFormat line hMem

end UrlTemplate

------------------------------------------------------------
-- Readings
------------------------------------------------------------

namespace SourceRepair

variable {repair : SourceRepair}

/- Whether nothing that repair fills in has a line end. -/
structure IsOneLine (repair : SourceRepair) : Prop where
  repository : '\n' ∉ repair.template.repository
  branch : '\n' ∉ repair.template.branch
  format : '\n' ∉ repair.template.format
  paths : ∀ entry ∈ repair.index.paths, '\n' ∉ entry.2

instance (repair : SourceRepair) : Decidable repair.IsOneLine :=
  decidable_of_iff
    ('\n' ∉ repair.template.repository ∧
      '\n' ∉ repair.template.branch ∧
      '\n' ∉ repair.template.format ∧
      ∀ entry ∈ repair.index.paths, '\n' ∉ entry.2)
    ⟨fun ⟨hRepository, hBranch, hFormat, hPaths⟩ =>
      ⟨hRepository, hBranch, hFormat, hPaths⟩,
     fun ⟨hRepository, hBranch, hFormat, hPaths⟩ =>
      ⟨hRepository, hBranch, hFormat, hPaths⟩⟩

end SourceRepair

/- Whether no part of what a URL gives has a line end. -/
structure UrlReading.IsOneLine (r : UrlReading) : Prop where
  branch : '\n' ∉ r.branch
  path : '\n' ∉ r.path
  fragment : ∀ t ∈ r.fragment, '\n' ∉ t

namespace BlobUrl

theorem isFragmentChar_of_fragment?
    {t shown : Text}
    (h : fragment? t = some (some shown)) :
    ∀ c ∈ shown, isFragmentChar c = true := by
  unfold fragment? at h
  split at h
  · cases h
  · split_ifs at h with hAll
    cases h
    exact List.all_eq_true.mp hAll
  · cases h

theorem isOneLine_of_ofText?
    {t : Text}
    {url : BlobUrl}
    (h : ofText? t = some url) :
    UrlReading.IsOneLine ⟨url, .blob⟩ := by
  rcases exists_runs_of_ofText? h with
    ⟨front, owner, name, rest, -, -, -, hBranch, hPath,
      hFragment⟩
  constructor
  · intro hMem
    exact absurd (hBranch _ hMem) (by decide)
  · intro hMem
    exact absurd (hPath _ hMem) (by decide)
  · intro shown hShown hMem
    rw [Option.mem_def.mp hShown] at hFragment
    have hChar := isFragmentChar_of_fragment? hFragment _ hMem
    exact absurd hChar (by decide)

end BlobUrl

namespace SourceRepair

variable {repair : SourceRepair}

/- What follows a stand-in is parted at a number sign. -/
theorem newline_not_mem_splitFragment
    {rest : Text}
    (hRest : '\n' ∉ rest) :
    '\n' ∉ (splitFragment rest).1 ∧
      ∀ t ∈ (splitFragment rest).2, '\n' ∉ t := by
  unfold splitFragment
  split
  · next before fragment hCut =>
      rw [Text.eq_append_of_cutAtChar? hCut] at hRest
      simp only [List.mem_append, List.mem_cons, not_or] at hRest
      simpa using ⟨hRest.1, hRest.2.2⟩
  · simpa using hRest

/- A branch is the template's own, or it is read. -/
theorem newline_not_mem_branchAndPath
    {behind : Text}
    (hBranch : '\n' ∉ repair.template.branch)
    (hBehind : '\n' ∉ behind) :
    '\n' ∉ (repair.branchAndPath behind).1 ∧
      '\n' ∉ (repair.branchAndPath behind).2 := by
  unfold branchAndPath
  cases hSlash : Text.cutAtChar? '/' behind with
  | none => exact ⟨hBranch, hBehind⟩
  | some parts =>
      rw [Text.eq_append_of_cutAtChar? hSlash] at hBehind
      simp only [List.mem_append, List.mem_cons, not_or]
        at hBehind
      exact ⟨hBehind.1, hBehind.2.2⟩

/- The parts of a stand-in are parts of what follows it. -/
theorem isOneLine_readStandIn
    {url : StandInUrl}
    (hBranch : '\n' ∉ repair.template.branch)
    (hRest : '\n' ∉ url.rest) :
    (repair.readStandIn url).IsOneLine := by
  have hSplit := newline_not_mem_splitFragment hRest
  unfold readStandIn
  rcases hEq : splitFragment url.rest with ⟨address, fragment⟩
  rw [hEq] at hSplit
  rcases hSplit with ⟨hAddress, hFragment⟩
  dsimp only at hAddress hFragment ⊢
  split
  · next front behind hCut =>
      rw [Text.eq_append_of_cutAt? hCut] at hAddress
      simp only [List.mem_append, not_or] at hAddress
      have hParts :=
        newline_not_mem_branchAndPath hBranch hAddress.2.2
      exact ⟨hParts.1, hParts.2, hFragment⟩
  · refine ⟨hBranch, fun hMem => hAddress ?_, hFragment⟩
    unfold DocPath.fileName Text.afterLast at hMem
    rw [List.mem_reverse] at hMem
    have hReverse := (List.takeWhile_subset _) hMem
    exact List.mem_reverse.mp hReverse

theorem isOneLine_of_reading?
    {url : Text}
    {r : UrlReading}
    (hBranch : '\n' ∉ repair.template.branch)
    (h : repair.reading? url = some r) : r.IsOneLine := by
  unfold reading? at h
  split at h
  · next o ho =>
      cases h
      have hMem := List.mem_of_head? ho
      rcases Text.exists_read_of_mem_cutFrom hMem with
        ⟨before, u, hRead⟩
      rcases StandInUrl.reader_eq_some_iff.mp hRead with
        ⟨front, -, rest, -, -, hValue, -⟩
      apply isOneLine_readStandIn hBranch
      intro hNewline
      rw [hValue] at hNewline
      have hChar := StandInUrl.isRestChar_of_mem_restOf hNewline
      exact absurd hChar (by decide)
  · rcases Option.map_eq_some_iff.mp h with ⟨blob, hBlob, rfl⟩
    exact BlobUrl.isOneLine_of_ofText? hBlob

/- A URL that is built anew has no line end. -/
theorem newline_not_mem_of_replace
    {url v : Text}
    (hRepair : repair.IsOneLine)
    (h : repair.repairUrl url = .replace v) : '\n' ∉ v := by
  rcases exists_of_repairUrl_eq_replace h with
    ⟨r, path, hReading, rfl, hMay⟩
  have hRead := isOneLine_of_reading? hRepair.branch hReading
  have hPath : '\n' ∉ path := by
    rcases hMay with ⟨name, -, hName⟩ | ⟨rfl, -⟩
    · rcases List.lookup_eq_some_iff.mp hName with
        ⟨front, back, hEq, -⟩
      apply hRepair.paths (name, path)
      rw [hEq]
      exact List.mem_append_right front List.mem_cons_self
    · exact hRead.path
  have hBuilt :
      ∀ line,
        '\n' ∉ repair.template.buildOn r.branch path line :=
    UrlTemplate.newline_not_mem_buildOn hRepair.repository
      hRepair.format hRead.branch hPath
  have hFragment : '\n' ∉ DocPath.fragment r.fragment := by
    intro hMem
    unfold DocPath.fragment at hMem
    split at hMem
    · cases hMem
    · cases hMem
    · next anchor _ hShown =>
        rcases List.mem_cons.mp hMem with hMark | hMem
        · exact absurd hMark (by decide)
        · exact hRead.fragment _ hShown hMem
  unfold rebuild
  dsimp only
  generalize
    (if repair.template.hasLine = true then
      r.fragment.bind lineOf? else none) = line
  split
  · exact hBuilt line
  · rw [List.mem_append, not_or]
    exact ⟨hBuilt line, hFragment⟩

------------------------------------------------------------
-- Stand-Ins And Links
------------------------------------------------------------

/- Neither a stand-in nor what it becomes has a line end. -/
theorem lineEnds_repairStandIns
    (hRepair : repair.IsOneLine)
    (t : Text) :
    (repair.repairStandIns t).lineEnds = t.lineEnds := by
  apply Text.lineEnds_replace_of_same
  · exact StandInUrl.reader_steady.readsFront
  · intro o ho
    rcases Text.exists_read_of_mem_cutFrom ho with
      ⟨before, u, hRead⟩
    have hCovered : '\n' ∉ o.covered := by
      rcases StandInUrl.reader_eq_some_iff.mp hRead with
        ⟨front, hFront, rest, -, -, -, hEq⟩
      rw [hEq, List.mem_append, not_or]
      constructor
      · intro hMem
        have hChar :=
          StandInUrl.isRestChar_of_mem_fronts hFront _ hMem
        exact absurd hChar (by decide)
      · intro hMem
        have hChar := StandInUrl.isRestChar_of_mem_restOf hMem
        exact absurd hChar (by decide)
    rw [Text.lineEnds_eq_zero hCovered]
    apply Text.lineEnds_eq_zero
    unfold repairBare
    split
    · exact hCovered
    · exact List.not_mem_nil
    · next v hReplace =>
        exact newline_not_mem_of_replace hRepair hReplace

/- A link has the line ends of its label. -/
theorem lineEnds_link
    {link : Link}
    (hTarget : '\n' ∉ link.target) :
    link.render.lineEnds = link.label.lineEnds := by
  have hClose :
      Text.lineEnds (']' :: '(' :: link.target ++ [')']) = 0 := by
    apply Text.lineEnds_eq_zero
    simp [hTarget]
  have hOpen : Text.lineEnds ['['] = 0 := by
    decide
  unfold Link.render
  rw [Text.lineEnds_append, hClose, Text.lineEnds_cons, hOpen]
  omega

theorem lineEnds_repairLinks
    (hRepair : repair.IsOneLine)
    (t : Text) :
    (repair.repairLinks t).lineEnds = t.lineEnds := by
  apply Text.lineEnds_replace_of_same
  · exact Link.webReader_steady.readsFront
  · intro o ho
    rcases Text.exists_read_of_mem_cutFrom ho with
      ⟨before, u, hRead⟩
    rcases Link.webReader_eq_some_iff.mp hRead with
      ⟨-, hWeb, -, hCovered⟩
    have hTarget : '\n' ∉ o.value.target := by
      intro hMem
      have hBlank := Link.not_blank_of_isWebTarget hWeb _ hMem
      exact absurd hBlank (by decide)
    rw [hCovered, lineEnds_link hTarget]
    unfold repairLink
    split
    · exact lineEnds_link hTarget
    · rfl
    · next v hReplace =>
        apply lineEnds_link
        exact newline_not_mem_of_replace hRepair hReplace

end SourceRepair

------------------------------------------------------------
-- Click Lines
------------------------------------------------------------

namespace ClickLine

/- A click line has the line ends of its address. -/
theorem lineEnds_render
    {line : ClickLine}
    (hHead : IsHead line.indent line.front)
    (hBack : ∃ shown, line.back = '"' :: shown ∧ '\n' ∉ shown) :
    line.render.lineEnds = line.url.lineEnds := by
  have hFront :=
    Text.lineEnds_eq_zero (newline_not_mem_head hHead)
  have hRest : Text.lineEnds line.back = 0 := by
    rcases hBack with ⟨shown, hEq, hShown⟩
    apply Text.lineEnds_eq_zero
    rw [hEq, List.mem_cons, not_or]
    exact ⟨by decide, hShown⟩
  unfold render
  rw [Text.lineEnds_append, Text.lineEnds_append, hFront, hRest]
  omega

theorem reader_readsFront : reader.ReadsFront := by
  intro before t line x hRead
  unfold reader at hRead
  split_ifs at hRead
  rcases Option.map_eq_some_iff.mp hRead with
    ⟨found, hFound, hEq⟩
  cases hEq
  rcases isWritable_of_read? hFound with ⟨-, next, rfl⟩
  exact List.prefix_append _ _

theorem isWritable_of_mem_cut
    {t : Text}
    {o : Occurrence ClickLine}
    (ho : o ∈ (t.cut reader).occurrences) :
    o.value.IsWritable := by
  rcases Text.exists_read_of_mem_cutFrom ho with
    ⟨before, u, hRead⟩
  unfold reader at hRead
  split_ifs at hRead
  rcases Option.map_eq_some_iff.mp hRead with
    ⟨found, hFound, hEq⟩
  rw [← (Prod.mk.inj hEq).1]
  exact (isWritable_of_read? hFound).1

end ClickLine

namespace SourceRepair

variable {repair : SourceRepair}

/- The line ends that a click line loses with its address. -/
def lostLineEnds
    (repair : SourceRepair)
    (line : ClickLine) : Nat :=
  if repair.repairUrl line.url = .keep then 0
  else line.url.lineEnds

theorem lineEnds_repairClick
    (hRepair : repair.IsOneLine)
    {line : ClickLine}
    (hWritable : line.IsWritable) :
    (repair.repairClick line).lineEnds +
        repair.lostLineEnds line =
      line.render.lineEnds := by
  rw [ClickLine.lineEnds_render hWritable.head hWritable.back]
  unfold repairClick lostLineEnds
  cases hVerdict : repair.repairUrl line.url with
  | keep =>
      simp [ClickLine.lineEnds_render hWritable.head
        hWritable.back]
  | remove =>
      have hRemoved :=
        Text.lineEnds_eq_zero (newline_not_mem_removed hWritable)
      simp [hRemoved]
  | replace v =>
      have hRender :
          (ClickLine.render { line with url := v }).lineEnds =
            Text.lineEnds v :=
        ClickLine.lineEnds_render hWritable.head hWritable.back
      have hNew :=
        Text.lineEnds_eq_zero
          (newline_not_mem_of_replace hRepair hVerdict)
      simp [hRender, hNew]

/- All that is lost is lost with addresses of click lines. -/
theorem lineEnds_repairClicks
    (hRepair : repair.IsOneLine)
    (t : Text) :
    (repair.repairClicks t).lineEnds +
        ((t.findAll ClickLine.reader).map
          repair.lostLineEnds).sum =
      t.lineEnds := by
  have hCounts :
      (repair.repairClicks t).lineEnds +
          ((t.cut ClickLine.reader).occurrences.map fun o =>
            repair.lostLineEnds o.value).sum =
        Text.lineEnds
          ((t.cut ClickLine.reader).replace (·.covered)) := by
    apply Text.lineEnds_replace
    intro o ho
    rw [ClickLine.covered_of_mem_cut ho]
    exact lineEnds_repairClick hRepair
      (ClickLine.isWritable_of_mem_cut ho)
  rw [Text.replace_covered ClickLine.reader_readsFront]
    at hCounts
  rwa [Text.findAll, List.map_map]

------------------------------------------------------------
-- Texts
------------------------------------------------------------

/-
  A text keeps its line ends exactly if every click line in
  it whose address does not stay has its address on one
  line.
-/
theorem lineEnds_repairText_eq_iff
    (hRepair : repair.IsOneLine)
    (t : Text) :
    (repair.repairText t).lineEnds = t.lineEnds ↔
      ∀ line ∈ t.findAll ClickLine.reader,
        repair.repairUrl line.url ≠ .keep →
          '\n' ∉ line.url := by
  have hClicks := lineEnds_repairClicks hRepair t
  have hLost :
      (repair.repairText t).lineEnds = t.lineEnds ↔
        ((t.findAll ClickLine.reader).map
          repair.lostLineEnds).sum = 0 := by
    unfold repairText
    rw [lineEnds_repairStandIns hRepair,
      lineEnds_repairLinks hRepair]
    omega
  rw [hLost, List.sum_eq_zero_iff_forall_eq_nat,
    List.forall_mem_map]
  apply forall₂_congr
  intro line _
  unfold lostLineEnds
  by_cases hKeep : repair.repairUrl line.url = .keep
  · simp [hKeep]
  · simp [hKeep, Text.lineEnds, List.count_eq_zero]

/-
  An address on two lines that stays does no harm, and
  those on one line may be removed or built anew.
-/
theorem lineEnds_repairText_eq_iff_of_each_verdict :
    let root : Folder :=
      .folder "src".toList
        (.file "A.cs".toList (.text []) .empty) .empty
    let repair : SourceRepair :=
      { checkout := root
        template :=
          HostedRepository.template
            ⟨"org".toList, "shop".toList, by decide, by decide⟩
            "main".toList
        index :=
          SourceIndex.ofFolder root ['.']
            SourceIndex.defaultSkipped ["cs".toList]
        extensions := ["cs".toList] }
    let moved : Text :=
      "https://github.com/org/shop/blob/main/A.cs".toList
    let gone : Text := "https://github.com/your-repo/G.cs".toList
    let t : Text :=
      "click A \"https://a.org/\nb\"\nclick B \"".toList ++
        moved ++ "\"\nclick C \"".toList ++ gone ++
        "\"\n[c\nd](".toList ++ moved ++ ")\n".toList ++ gone
    repair.IsOneLine ∧
      (t.findAll ClickLine.reader).map
          (fun line => repair.repairUrl line.url) =
        [.keep,
         .replace
          "https://github.com/org/shop/blob/main/src/A.cs".toList,
         .remove] ∧
      (repair.repairText t).lineEnds = t.lineEnds := by
  intro root repair moved gone t
  have hRepair : repair.IsOneLine := by
    decide +kernel
  have hVerdicts :
      (t.findAll ClickLine.reader).map
          (fun line => repair.repairUrl line.url) =
        [.keep,
         .replace
          "https://github.com/org/shop/blob/main/src/A.cs".toList,
         .remove] := by
    decide +kernel
  have hOneLine :
      ∀ line ∈ t.findAll ClickLine.reader,
        repair.repairUrl line.url ≠ .keep →
          '\n' ∉ line.url := by
    decide +kernel
  exact ⟨hRepair, hVerdicts,
    (lineEnds_repairText_eq_iff hRepair t).mpr hOneLine⟩

/-
  An address whose quotation mark is on a later line takes
  the lines between with it, when it is removed and when it
  is built anew.
-/
theorem lineEnds_repairText_changes :
    let root : Folder :=
      .folder "src".toList
        (.file "A.cs".toList (.text []) .empty) .empty
    let repair : SourceRepair :=
      { checkout := root
        template :=
          HostedRepository.template
            ⟨"org".toList, "shop".toList, by decide, by decide⟩
            "main".toList
        index :=
          SourceIndex.ofFolder root ['.']
            SourceIndex.defaultSkipped ["cs".toList]
        extensions := ["cs".toList] }
    let made : Text := "https://github.com/your-repo/".toList
    let there : Text :=
      "https://github.com/org/shop/blob/main/src/A.cs".toList
    repair.IsOneLine ∧
      repair.repairText
          ("click G \"".toList ++ made ++
            "G.cs\nA --> B\nclick A \"".toList ++ there ++
            "\"\n".toList) =
        removedClick ++ ['\n'] ∧
      repair.repairText
          ("click A \"".toList ++ made ++
            "A.cs\nA --> B\"\n".toList) =
        "click A \"".toList ++ there ++ "\"\n".toList := by
  decide +kernel

end SourceRepair

end SourceDocs
