import SourceDocs.Proofs.SourceUrl.Readings
import SourceDocs.Proofs.Text.Numerals

/-
  Fragments that go by way of a format's place for a line.

  A format without such a place gets the fragment of the old
  URL as it was. One that ends in a place for the line gets
  the number of the line, if the fragment names one: so it is
  written anew, without a plus sign and zeros in front of it.

  Key definitions include:
    * `SourceDocs.SourceRepair.withLine`
    * `SourceDocs.SourceRepair.plainLine`
    * `SourceDocs.SourceRepair.IsRespelled`

  Main results:
    * `SourceDocs.SourceRepair.lineOf?_eq_some_iff`
    * `SourceDocs.UrlTemplate.buildOn_withLine_some`
    * `SourceDocs.SourceRepair.rebuild_withLine`
    * `SourceDocs.SourceRepair.repairUrl_withLine_eq_iff`
-/

------------------------------------------------------------
-- Formats
------------------------------------------------------------

namespace SourceDocs

namespace UrlTemplate

/- A fragment with a place for the line. -/
def lineFragment : Text := "#L{line}".toList

/- The template with such a fragment behind its format. -/
def withLine (template : UrlTemplate) : UrlTemplate :=
  { template with format := template.format ++ lineFragment }

variable {template : UrlTemplate}

theorem hasLine_eq_false
    (hFormat : ¬ lineMark <:+: template.format) :
    template.hasLine = false :=
  Text.holds_eq_false_iff.mpr hFormat

theorem hasLine_withLine
    (template : UrlTemplate) :
    template.withLine.hasLine = true := by
  by_contra h
  rw [Bool.not_eq_true, hasLine, Text.holds_eq_false_iff] at h
  refine h (List.IsSuffix.isInfix ?_)
  exact (show lineMark <:+ lineFragment by decide).trans
    (List.suffix_append template.format lineFragment)

/- Without a line, the format is left as it was before. -/
theorem fillLine_none
    (hFormat : ¬ lineMark <:+: template.format) :
    fillLine template.format none = template.format := by
  rw [fillLine, dropLineFragment,
    Text.cutAt?_eq_none_iff.mpr hFormat]

theorem cutAtLast?_append_sharp
    (format : Text) :
    Text.cutAtLast? (· == '#') (format ++ ['#', 'L']) =
      some (format, ['L']) := by
  rw [Text.cutAtLast?, List.reverse_append]
  simp

theorem fillLine_withLine_none
    (hFormat : ¬ lineMark <:+: template.format) :
    fillLine template.withLine.format none = template.format := by
  have hSharp : '#' ∉ lineMark := by decide
  have hCut :
      Text.cutAt? lineMark (template.format ++ lineFragment) =
        some (template.format ++ ['#', 'L'], []) :=
    Text.cutAt?_append_of_not_prefix fun _ hs _ =>
      Text.not_prefix_append_cons hSharp hFormat hs _
  have hFragment :
      Text.cutAtLast? (· == '#') (template.format ++ ['#', 'L']) =
        some (template.format, ['L']) :=
    cutAtLast?_append_sharp template.format
  rw [withLine, fillLine, dropLineFragment, hCut]
  simp only [hFragment, List.append_nil]

theorem fillLine_withLine_some
    (hFormat : ¬ lineMark <:+: template.format)
    (n : Nat) :
    fillLine template.withLine.format (some n) =
      template.format ++ '#' :: 'L' :: Text.ofNat n := by
  have hSharp : '#' ∉ lineMark := by decide
  have hBrace : lineMark.head? = some '\x7b' := rfl
  have hFront : '\x7b' ∉ ['#', 'L'] := by decide
  have hMark :
      Text.replaceAll lineMark (Text.ofNat n) (lineMark ++ []) =
        Text.ofNat n ++ [] :=
    Text.replaceAll_mark_append (by decide) (Text.ofNat n) []
  have hFragment :
      Text.replaceAll lineMark (Text.ofNat n)
          (['#', 'L'] ++ lineMark) =
        ['#', 'L'] ++ Text.ofNat n := by
    rw [List.append_nil, List.append_nil] at hMark
    rw [Text.replaceAll_append_of_not_mem hBrace hFront, hMark]
  have hWhole :
      Text.replaceAll lineMark (Text.ofNat n)
          (template.format ++ (['#', 'L'] ++ lineMark)) =
        template.format ++
          Text.replaceAll lineMark (Text.ofNat n)
            (['#', 'L'] ++ lineMark) :=
    Text.replaceAll_append_of_not_infix hSharp hFormat
  rw [hFragment] at hWhole
  exact hWhole

/- What is built is the same without a line. -/
theorem buildOn_withLine_none
    (hFormat : ¬ lineMark <:+: template.format)
    (branch path : Text) :
    template.withLine.buildOn branch path none =
      template.buildOn branch path none := by
  rw [buildOn, buildOn, fillLine_withLine_none hFormat,
    fillLine_none hFormat]
  rfl

/- A line goes behind it, as nothing is filled in there. -/
theorem buildOn_withLine_some
    (hFormat : ¬ lineMark <:+: template.format)
    (branch path : Text)
    (n : Nat) :
    template.withLine.buildOn branch path (some n) =
      template.buildOn branch path none ++
        '#' :: 'L' :: Text.ofNat n := by
  have hBrace : '\x7d' ∉ '#' :: 'L' :: Text.ofNat n := by
    simp only [List.mem_cons, not_or]
    refine ⟨by decide, by decide, fun hMem => ?_⟩
    exact absurd (Text.isAsciiDigit_of_mem_ofNat hMem) (by decide)
  have hRepository : repositoryMark.getLast? = some '\x7d' := rfl
  have hBranch : branchMark.getLast? = some '\x7d' := rfl
  have hPath : pathMark.getLast? = some '\x7d' := rfl
  rw [buildOn, buildOn, fillLine_withLine_some hFormat,
    fillLine_none hFormat,
    Text.replaceAll_append_back hRepository hBrace,
    Text.replaceAll_append_back hBranch hBrace,
    Text.replaceAll_append_back hPath hBrace]
  rfl

end UrlTemplate

------------------------------------------------------------
-- Fragments
------------------------------------------------------------

namespace SourceRepair

open UrlTemplate (lineMark)

/-
  Whether a fragment writes the number of a line in another
  way than a format does: with a plus sign or with zeros in
  front of it.
-/
def IsRespelled (fragment : Text) : Prop :=
  ∃ sign zeros n,
    fragment =
        'L' :: (sign ++
          (List.replicate zeros '0' ++ Text.ofNat n)) ∧
      n < Nat.pow 2 32 ∧
      (sign = ['+'] ∨ sign = [] ∧ 0 < zeros)

/- A fragment with the line that it names written anew. -/
def plainLine (fragment : Text) : Text :=
  match lineOf? fragment with
  | some n => 'L' :: Text.ofNat n
  | none => fragment

/- A plus sign is no digit, so it is read if it is there. -/
theorem getD_after?_plus_eq_iff
    {t : Text}
    {zeros n : Nat} :
    (Text.after? ['+'] t).getD t =
        List.replicate zeros '0' ++ Text.ofNat n ↔
      ∃ sign, (sign = ['+'] ∨ sign = []) ∧
        t = sign ++
          (List.replicate zeros '0' ++ Text.ofNat n) := by
  have hDigits :
      ∀ c ∈ List.replicate zeros '0' ++ Text.ofNat n,
        isAsciiDigit c = true :=
    List.all_eq_true.mp
      (Text.ofDigitChars_eq_iff.mpr ⟨zeros, rfl⟩).2.1
  generalize List.replicate zeros '0' ++ Text.ofNat n = digits
    at hDigits ⊢
  have hSign : Text.after? ['+'] digits = none := by
    rw [Text.after?_eq_none_iff]
    intro hPrefix
    have hMem : '+' ∈ digits :=
      hPrefix.subset List.mem_cons_self
    exact absurd (hDigits '+' hMem) (by decide)
  constructor
  · intro h
    cases hAfter : Text.after? ['+'] t with
    | none =>
        rw [hAfter] at h
        exact ⟨[], Or.inr rfl, h⟩
    | some rest =>
        rw [hAfter] at h
        cases h
        exact ⟨['+'], Or.inl rfl, Text.eq_append_of_after? hAfter⟩
  · rintro ⟨sign, rfl | rfl, rfl⟩
    · rw [Text.after?_append]
      rfl
    · rw [hSign]
      rfl

theorem lineNumber?_eq_some_iff
    {t : Text}
    {n : Nat} :
    lineNumber? t = some n ↔
      n < Nat.pow 2 32 ∧
        ∃ zeros sign, (sign = ['+'] ∨ sign = []) ∧
          t = sign ++
            (List.replicate zeros '0' ++ Text.ofNat n) := by
  simp only [← getD_after?_plus_eq_iff, lineNumber?]
  generalize (Text.after? ['+'] t).getD t = digits
  rw [← Text.ofDigitChars_eq_iff]
  constructor
  · intro h
    split_ifs at h with hDigits hSmall
    rw [Option.some.injEq] at h
    exact ⟨h ▸ hSmall, hDigits.1, hDigits.2, h⟩
  · rintro ⟨hSmall, hNil, hAll, rfl⟩
    exact (if_pos ⟨hNil, hAll⟩).trans (if_pos hSmall)

/- The line of a fragment, in each way to write it. -/
theorem lineOf?_eq_some_iff
    {fragment : Text}
    {n : Nat} :
    lineOf? fragment = some n ↔
      n < Nat.pow 2 32 ∧
        ∃ zeros sign, (sign = ['+'] ∨ sign = []) ∧
          fragment = 'L' :: (sign ++
            (List.replicate zeros '0' ++ Text.ofNat n)) := by
  simp only [lineOf?, Option.bind_eq_some_iff,
    Text.after?_eq_some_iff, lineNumber?_eq_some_iff]
  constructor
  · rintro ⟨t, rfl, hSmall, zeros, sign, hSign, rfl⟩
    exact ⟨hSmall, zeros, sign, hSign, rfl⟩
  · rintro ⟨hSmall, zeros, sign, hSign, rfl⟩
    exact ⟨_, rfl, hSmall, zeros, sign, hSign, rfl⟩

/- Written anew are the fragments that spell it otherwise. -/
theorem plainLine_eq_self_iff
    {fragment : Text} :
    plainLine fragment = fragment ↔ ¬ IsRespelled fragment := by
  constructor
  · rintro hSame ⟨sign, zeros, n, rfl, hSmall, hOther⟩
    have hSign : sign = ['+'] ∨ sign = [] :=
      hOther.imp_right And.left
    have hLine :=
      lineOf?_eq_some_iff.mpr ⟨hSmall, zeros, sign, hSign, rfl⟩
    rw [plainLine, hLine] at hSame
    -- The sign and the zeros make the fragment longer.
    have hLength := congrArg List.length hSame
    simp only [List.length_cons, List.length_append,
      List.length_replicate] at hLength
    rcases hOther with rfl | ⟨rfl, hZeros⟩
    · simp only [List.length_cons] at hLength
      omega
    · omega
  · intro hPlain
    rw [plainLine]
    cases hLine : lineOf? fragment with
    | none => rfl
    | some n =>
        rcases lineOf?_eq_some_iff.mp hLine with
          ⟨hSmall, zeros, sign, hSign, rfl⟩
        rcases hSign with rfl | rfl
        · exact absurd
            ⟨['+'], zeros, n, rfl, hSmall, Or.inl rfl⟩ hPlain
        · rcases Nat.eq_zero_or_pos zeros with rfl | hZeros
          · rfl
          · exact absurd
              ⟨[], zeros, n, rfl, hSmall, Or.inr ⟨rfl, hZeros⟩⟩
              hPlain

instance (fragment : Text) : Decidable (IsRespelled fragment) :=
  decidable_of_iff (¬ plainLine fragment = fragment)
    (by rw [plainLine_eq_self_iff, not_not])

------------------------------------------------------------
-- URLs
------------------------------------------------------------

/- A fragment that is there is told from each other one. -/
theorem fragment_some_inj
    {f g : Text} :
    DocPath.fragment (some f) = DocPath.fragment (some g) ↔
      f = g := by
  cases f <;> cases g <;> simp [DocPath.fragment]

theorem fragment_plainLine_eq_iff
    {fragment : Option Text} :
    DocPath.fragment (fragment.map plainLine) =
        DocPath.fragment fragment ↔
      ∀ f ∈ fragment, ¬ IsRespelled f := by
  cases fragment with
  | none => simp
  | some f =>
      rw [Option.map_some, fragment_some_inj,
        plainLine_eq_self_iff]
      simp

/- The same repair, with a place for the line in its URLs. -/
def withLine (repair : SourceRepair) : SourceRepair :=
  { repair with template := repair.template.withLine }

variable {repair : SourceRepair}
variable {r : UrlReading}

/- What is built ends in the fragment, written anew. -/
theorem rebuild_withLine
    (hFormat : ¬ lineMark <:+: repair.template.format)
    (branch path : Text)
    (fragment : Option Text) :
    repair.withLine.rebuild branch path fragment =
      repair.rebuild branch path (fragment.map plainLine) := by
  have hHas : repair.template.hasLine = false :=
    UrlTemplate.hasLine_eq_false hFormat
  have hHasBehind : repair.template.withLine.hasLine = true :=
    UrlTemplate.hasLine_withLine repair.template
  have hNone :=
    UrlTemplate.buildOn_withLine_none hFormat branch path
  simp only [rebuild, withLine, hHas, hHasBehind, if_true,
    Bool.false_eq_true, if_false, Option.isSome_none]
  cases fragment with
  | none => exact congrArg (· ++ []) hNone
  | some f =>
      rw [Option.bind_some, Option.map_some, plainLine]
      cases lineOf? f with
      | none =>
          exact congrArg (· ++ DocPath.fragment (some f)) hNone
      | some n =>
          exact UrlTemplate.buildOn_withLine_some hFormat branch
            path n

/- So the verdict is that on the fragment written anew. -/
theorem verdict_withLine
    (hFormat : ¬ lineMark <:+: repair.template.format)
    (r : UrlReading) :
    repair.withLine.verdict r =
      repair.verdict
        { r with fragment := r.fragment.map plainLine } := by
  have hLocate :
      ∀ path, repair.withLine.locate path = repair.locate path :=
    fun _ => rfl
  rcases r with ⟨⟨branch, path, fragment⟩, form⟩
  cases form with
  | blob =>
      simp only [verdict, repairBlob, hLocate,
        rebuild_withLine hFormat]
  | standInPath =>
      simp only [verdict, repairStandInBlob, hLocate,
        rebuild_withLine hFormat]
  | standInName =>
      simp only [verdict, repairStandInName, hLocate,
        rebuild_withLine hFormat]
      rfl

/- A fragment counts only in a URL that is built. -/
theorem verdict_withFragment_eq_iff
    (hFormat : ¬ lineMark <:+: repair.template.format)
    (fragment : Option Text) :
    repair.verdict { r with fragment } = repair.verdict r ↔
      ∀ v, repair.verdict r = .replace v →
        DocPath.fragment fragment =
          DocPath.fragment r.fragment := by
  have hHas : repair.template.hasLine = false :=
    UrlTemplate.hasLine_eq_false hFormat
  have hRebuild :
      ∀ branch path f g,
        repair.rebuild branch path f =
            repair.rebuild branch path g ↔
          DocPath.fragment f = DocPath.fragment g := by
    intro branch path f g
    simp [rebuild, hHas]
  rcases r with ⟨⟨branch, path, own⟩, form⟩
  cases form with
  | blob =>
      simp only [verdict, repairBlob]
      cases repair.locate path <;> simp [hRebuild]
  | standInPath =>
      simp only [verdict, repairStandInBlob]
      cases repair.locate path <;> simp [hRebuild]
  | standInName =>
      simp only [verdict, repairStandInName]
      split_ifs
      · simp
      · cases repair.index.path? path <;> simp [hRebuild]

/-
  A place for the line makes no difference to a URL unless a
  new one is built and the fragment that it takes over writes
  its line in another way.
-/
theorem repairUrl_withLine_eq_iff
    (hFormat : ¬ lineMark <:+: repair.template.format)
    (url : Text) :
    repair.withLine.repairUrl url = repair.repairUrl url ↔
      ∀ v, repair.repairUrl url = .replace v →
        ∀ r ∈ repair.reading? url, ∀ f ∈ r.fragment,
          ¬ IsRespelled f := by
  have hReading :
      repair.withLine.reading? url = repair.reading? url := rfl
  rw [repairUrl_eq_verdict, repairUrl_eq_verdict, hReading]
  cases repair.reading? url with
  | none => simp
  | some r =>
      simp only [Option.map_some, Option.getD_some,
        Option.mem_some_iff, forall_eq']
      rw [verdict_withLine hFormat,
        verdict_withFragment_eq_iff hFormat,
        fragment_plainLine_eq_iff]

/- A checkout with one source file, and the default format. -/
def singleFile : SourceRepair :=
  let root : Folder :=
    .folder "src".toList
      (.file "A.cs".toList (.text []) .empty) .empty
  { checkout := root
    template :=
      .ofAddress "https://github.com/org/shop".toList
        "main".toList UrlTemplate.defaultFormat
    index :=
      .ofFolder root "src".toList
        SourceIndex.defaultSkipped ["cs".toList]
    extensions := ["cs".toList] }

/-
  Numbers as a format writes them, ranges, what is too large
  for the number of a line, and other words are carried over.
-/
theorem repairUrl_withLine_eq_of_each_form :
    let repair : SourceRepair := singleFile
    let host : Text := "https://github.com/".toList
    let replaced : List (Text × Text) :=
      [(host ++ "org/shop/blob/dev/A.cs#L42".toList,
          host ++ "org/shop/blob/dev/src/A.cs#L42".toList),
        (host ++ "your-repo/x/A.cs#L3-L7".toList,
          host ++ "org/shop/blob/main/src/A.cs#L3-L7".toList),
        (host ++ "OWNER/REPO/blob/dev/A.cs#L04294967296".toList,
          host ++
            "org/shop/blob/dev/src/A.cs#L04294967296".toList),
        (host ++ "your-repo/A.cs#top".toList,
          host ++ "org/shop/blob/main/src/A.cs#top".toList)]
    ¬ lineMark <:+: repair.template.format ∧
      ∀ pair ∈ replaced,
        repair.repairUrl pair.1 = .replace pair.2 ∧
          repair.withLine.repairUrl pair.1 =
            repair.repairUrl pair.1 := by
  intro repair host replaced
  have hFormat : ¬ lineMark <:+: repair.template.format := by
    decide +kernel
  have hHold :
      ∀ pair ∈ replaced,
        repair.repairUrl pair.1 = .replace pair.2 ∧
          ∀ r ∈ repair.reading? pair.1, ∀ f ∈ r.fragment,
            ¬ IsRespelled f := by
    decide +kernel
  refine ⟨hFormat, fun pair hPair => ?_⟩
  rcases hHold pair hPair with ⟨hReplaced, hPlain⟩
  exact ⟨hReplaced,
    (repairUrl_withLine_eq_iff hFormat pair.1).mpr
      fun _ _ => hPlain⟩

/- A plus sign and zeros are lost in the place for the line. -/
theorem repairUrl_withLine_changes :
    let repair : SourceRepair := singleFile
    let moved (fragment : Text) : Text :=
      "https://github.com/org/shop/blob/main/A.cs#".toList ++
        fragment
    let built (fragment : Text) : Text :=
      "https://github.com/org/shop/blob/main/src/A.cs#".toList ++
        fragment
    ¬ lineMark <:+: repair.template.format ∧
      '#' ∉ repair.template.format ∧
      repair.repairUrl (moved "L007".toList) =
        .replace (built "L007".toList) ∧
      repair.withLine.repairUrl (moved "L007".toList) =
        .replace (built "L7".toList) ∧
      repair.repairUrl (moved "L+9".toList) =
        .replace (built "L+9".toList) ∧
      repair.withLine.repairUrl (moved "L+9".toList) =
        .replace (built "L9".toList) := by
  decide +kernel

end SourceRepair

end SourceDocs
