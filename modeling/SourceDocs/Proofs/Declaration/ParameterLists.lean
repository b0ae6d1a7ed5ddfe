import SourceDocs.Proofs.Declaration.Blocks
import SourceDocs.Proofs.Declaration.NameLists
import SourceDocs.Proofs.Selection

/-
  Lists of parameters with types and default values of any
  form, read back as they were written.

  A comma in a type is enclosed by brackets, so it parts no
  list. A default value is cut off at its equals sign, but
  its commas and brackets are read like all others, also in
  a string. So a list is read back if its default values
  close their brackets, and just if none of their commas
  outside of brackets has a declaration behind it.

  Key definitions include:
    * `SourceDocs.Text.IsBracketed`
    * `SourceDocs.Parameter.IsWrittenType`
    * `SourceDocs.ParameterDraft`
    * `SourceDocs.Text.DeclaresNothing`
    * `SourceDocs.Text.KeepsSignsInStrings`

  Main results:
    * `SourceDocs.Text.depthAfter_add_countP`
    * `SourceDocs.Parameter.IsWrittenType.isListType`
    * `SourceDocs.ParameterDraft.listOfText_text`
    * `SourceDocs.ParameterDraft.listOfText_join_eq_iff`
-/

------------------------------------------------------------
-- Counted Brackets
------------------------------------------------------------

namespace SourceDocs

namespace Text

theorem countP_or
    {a b d : Char}
    (hab : a ≠ b)
    (had : a ≠ d)
    (hbd : b ≠ d)
    (t : Text) :
    t.countP (fun c => c == a || c == b || c == d) =
      t.count a + t.count b + t.count d := by
  induction t with
  | nil => rfl
  | cons c t ih =>
      rw [List.countP_cons, List.count_cons, List.count_cons,
        List.count_cons, ih]
      by_cases ha : c = a
      · subst ha
        simp [hab, had]
        omega
      by_cases hb : c = b
      · subst hb
        simp [ha, hbd]
        omega
      by_cases hd : c = d
      · subst hd
        simp [ha, hb]
        omega
      · simp [ha, hb, hd]

theorem countP_isOpening (t : Text) :
    t.countP isOpening = t.count '<' + t.count '(' + t.count '[' :=
  countP_or (by decide) (by decide) (by decide) t

theorem countP_isClosing (t : Text) :
    t.countP isClosing = t.count '>' + t.count ')' + t.count ']' :=
  countP_or (by decide) (by decide) (by decide) t

theorem isClosing_of_isOpening
    {c : Char}
    (hc : isOpening c = true) : isClosing c = false := by
  simp only [isOpening, Bool.or_eq_true, beq_iff_eq] at hc
  rcases hc with (rfl | rfl) | rfl
  · rfl
  · rfl
  · rfl

/- Where no front closes too much, brackets are just counted. -/
theorem depthAfter_add_countP
    {depth : Nat}
    {t : Text}
    (h :
      ∀ p, p <+: t →
        p.countP isClosing ≤ depth + p.countP isOpening) :
    depthAfter depth t + t.countP isClosing =
      depth + t.countP isOpening := by
  induction t generalizing depth with
  | nil => rfl
  | cons c t ih =>
      have hFront :
          ∀ p, p <+: t →
            (c :: p).countP isClosing ≤
              depth + (c :: p).countP isOpening :=
        fun p hp => h (c :: p) ((List.prefix_cons_inj c).mpr hp)
      simp only [List.countP_cons] at hFront ⊢
      have hStep :
          stepDepth depth c + (if isClosing c then 1 else 0) =
            depth + (if isOpening c then 1 else 0) := by
        have hHead := hFront [] List.nil_prefix
        rw [stepDepth]
        cases hOpening : isOpening c with
        | true => simp [isClosing_of_isOpening hOpening]
        | false =>
            cases hClosing : isClosing c with
            | true =>
                simp [hOpening, hClosing] at hHead
                simp
                omega
            | false => simp
      have hTail :
          depthAfter (stepDepth depth c) t + t.countP isClosing =
            stepDepth depth c + t.countP isOpening := by
        refine ih fun p hp => ?_
        have hCount := hFront p hp
        omega
      rw [depthAfter_cons]
      omega

------------------------------------------------------------
-- Nested Brackets
------------------------------------------------------------

/-
  Whether brackets of each kind are nested in a text, and
  each comma stands within some.
-/
structure IsBracketed (t : Text) : Prop where
  angles : IsNested '<' '>' t
  parentheses : IsNested '(' ')' t
  squares : IsNested '[' ']' t
  commas :
    ∀ p, p ++ [','] <+: t →
      p.count '>' < p.count '<' ∨ p.count ')' < p.count '(' ∨
        p.count ']' < p.count '['

theorem isBracketed_iff
    {t : Text} :
    IsBracketed t ↔
      IsNested '<' '>' t ∧ IsNested '(' ')' t ∧
        IsNested '[' ']' t ∧
        ∀ p ∈ t.inits, p ++ [','] <+: t →
          p.count '>' < p.count '<' ∨ p.count ')' < p.count '(' ∨
            p.count ']' < p.count '[' := by
  constructor
  · rintro ⟨hAngles, hParens, hSquares, hCommas⟩
    exact ⟨hAngles, hParens, hSquares, fun p _ => hCommas p⟩
  · rintro ⟨hAngles, hParens, hSquares, hCommas⟩
    refine ⟨hAngles, hParens, hSquares, fun p hp => ?_⟩
    exact hCommas p
      ((List.mem_inits p t).mpr
        ((List.prefix_append p [',']).trans hp)) hp

instance (t : Text) : Decidable (IsBracketed t) :=
  decidable_of_iff _ isBracketed_iff.symm

namespace IsBracketed

variable {t : Text}

theorem depthAfter_add_countP
    (h : IsBracketed t)
    {p : Text}
    (hp : p <+: t) :
    depthAfter 0 p + p.countP isClosing = p.countP isOpening := by
  have hCount :
      ∀ q, q <+: p →
        q.countP isClosing ≤ 0 + q.countP isOpening := by
    intro q hq
    have hAngles := h.angles.count_le q (hq.trans hp)
    have hParens := h.parentheses.count_le q (hq.trans hp)
    have hSquares := h.squares.count_le q (hq.trans hp)
    rw [countP_isClosing, countP_isOpening]
    omega
  rw [Text.depthAfter_add_countP hCount, Nat.zero_add]

/- Such a text is not parted by its commas. -/
theorem isEnclosed (h : IsBracketed t) : IsEnclosed 0 t := by
  intro p q hEq hDepth
  have hp : p ++ [','] <+: t := ⟨q, by rw [hEq]; simp⟩
  have hFront := (List.prefix_append p [',']).trans hp
  have hCount := h.depthAfter_add_countP hFront
  have hAngles := h.angles.count_le p hFront
  have hParens := h.parentheses.count_le p hFront
  have hSquares := h.squares.count_le p hFront
  have hComma := h.commas p hp
  rw [countP_isClosing, countP_isOpening] at hCount
  omega

/- It closes the brackets that it opens. -/
theorem depthAfter_eq (h : IsBracketed t) : depthAfter 0 t = 0 := by
  have hCount := h.depthAfter_add_countP List.prefix_rfl
  rw [countP_isClosing, countP_isOpening, h.angles.count_eq,
    h.parentheses.count_eq, h.squares.count_eq] at hCount
  omega

end IsBracketed

end Text

------------------------------------------------------------
-- Types
------------------------------------------------------------

namespace Parameter

/-
  A type as it is written: brackets of each kind are nested,
  and each comma stands within some.
-/
structure IsWrittenType (type : Text) : Prop where
  trimmed : Text.IsTrimmed type
  equals : '=' ∉ type
  angles : IsNested '<' '>' type
  parentheses : IsNested '(' ')' type
  squares : IsNested '[' ']' type
  commas :
    ∀ p, p ++ [','] <+: type →
      p.count '>' < p.count '<' ∨ p.count ')' < p.count '(' ∨
        p.count ']' < p.count '['

variable {type : Text}

theorem IsWrittenType.isBracketed
    (h : IsWrittenType type) : Text.IsBracketed type :=
  ⟨h.angles, h.parentheses, h.squares, h.commas⟩

theorem isWrittenType_iff :
    IsWrittenType type ↔
      Text.IsTrimmed type ∧ '=' ∉ type ∧
        IsNested '<' '>' type ∧ IsNested '(' ')' type ∧
        IsNested '[' ']' type ∧
        ∀ p ∈ type.inits, p ++ [','] <+: type →
          p.count '>' < p.count '<' ∨ p.count ')' < p.count '(' ∨
            p.count ']' < p.count '[' := by
  rw [← Text.isBracketed_iff]
  constructor
  · exact fun h => ⟨h.trimmed, h.equals, h.isBracketed⟩
  · rintro ⟨hTrimmed, hEquals, hBracketed⟩
    exact ⟨hTrimmed, hEquals, hBracketed.angles,
      hBracketed.parentheses, hBracketed.squares,
      hBracketed.commas⟩

instance (type : Text) : Decidable (IsWrittenType type) :=
  decidable_of_iff _ isWrittenType_iff.symm

/- Such a type is not parted by a list. -/
theorem IsWrittenType.isListType
    (h : IsWrittenType type) : IsListType type :=
  ⟨h.trimmed, h.equals, h.isBracketed.isEnclosed,
   h.isBracketed.depthAfter_eq⟩

end Parameter

------------------------------------------------------------
-- Parts Without A Declaration
------------------------------------------------------------

namespace Text

/-
  Whether the next part of a list declares nothing: blanks
  aside, it starts with an equals sign or it is empty.
-/
def DeclaresNothing (t : Text) : Prop :=
  ∀ c, (trimStart t).head? = some c → c = '=' ∨ c = ','

theorem declaresNothing_nil : DeclaresNothing [] := by
  intro c hc
  cases hc

theorem declaresNothing_cons_of_isBlank
    {c : Char}
    (hc : isBlank c = true)
    (t : Text) :
    DeclaresNothing (c :: t) ↔ DeclaresNothing t := by
  unfold DeclaresNothing trimStart
  rw [List.dropWhile_cons_of_pos hc]

theorem declaresNothing_cons_of_not_isBlank
    {c : Char}
    (hc : isBlank c = false)
    (t : Text) :
    DeclaresNothing (c :: t) ↔ c = '=' ∨ c = ',' := by
  unfold DeclaresNothing trimStart
  rw [List.dropWhile_cons_of_neg (by simp [hc]), List.head?_cons]
  simp

end Text

theorem Parameter.ofText?_eq_none_iff
    {part : Text} :
    ofText? part = none ↔
      ∀ c ∈ part.takeWhile (· ≠ '='), isBlank c = true := by
  rw [← Text.trim_eq_nil_iff]
  unfold ofText?
  dsimp only
  split_ifs with hNil
  · exact iff_of_true rfl hNil
  · refine iff_of_false ?_ hNil
    split <;> simp

namespace Text

/- The first part of a list declares nothing as it starts. -/
theorem exists_first_part
    (t : Text) :
    ∃ first rest,
      splitTopLevel t = first :: rest ∧
        (Parameter.ofText? first = none ↔ DeclaresNothing t) := by
  induction t with
  | nil =>
      exact ⟨[], [], rfl, iff_of_true rfl declaresNothing_nil⟩
  | cons c t ih =>
      by_cases hComma : c = ','
      · subst hComma
        refine ⟨[], _, splitFrom_comma [] t, iff_of_true rfl ?_⟩
        rw [declaresNothing_cons_of_not_isBlank (by decide)]
        exact Or.inr rfl
      rcases exists_splitFrom_eq_cons (stepDepth 0 c) [] t with
        ⟨first, rest, hTail⟩
      have hSplit : splitTopLevel (c :: t) = (c :: first) :: rest := by
        rw [splitTopLevel,
          splitFrom_cons fun hEq => absurd hEq hComma,
          splitFrom_eq_modifyHead, hTail]
        rfl
      refine ⟨c :: first, rest, hSplit, ?_⟩
      rw [Parameter.ofText?_eq_none_iff]
      by_cases hEquals : c = '='
      · subst hEquals
        rw [declaresNothing_cons_of_not_isBlank (by decide)]
        simp
      rw [List.takeWhile_cons_of_pos (by simpa using hEquals),
        List.forall_mem_cons]
      cases hBlank : isBlank c with
      | true =>
          rcases ih with ⟨first', rest', hFirst, hIff⟩
          rw [stepDepth_of_isBlank hBlank, ← splitTopLevel, hFirst]
            at hTail
          rcases List.cons.inj hTail with ⟨rfl, -⟩
          rw [declaresNothing_cons_of_isBlank hBlank, ← hIff,
            Parameter.ofText?_eq_none_iff]
          exact and_iff_right rfl
      | false =>
          rw [declaresNothing_cons_of_not_isBlank hBlank]
          simp [hEquals, hComma]

theorem ofText?_tail_eq_none_iff
    (depth : Nat)
    (part t : Text) :
    (∀ u ∈ (splitFrom depth part t).tail,
        Parameter.ofText? u = none) ↔
      BehindCommas DeclaresNothing depth t := by
  induction t generalizing depth part with
  | nil =>
      exact iff_of_true (by simp [splitFrom])
        (behindCommas_nil DeclaresNothing depth)
  | cons c t ih =>
      rw [behindCommas_cons_iff]
      rcases comma_cases depth c with ⟨rfl, rfl⟩ | hc
      · rcases exists_first_part t with ⟨first, rest, hFirst, hIff⟩
        have hRest := ih 0 []
        rw [← splitTopLevel, hFirst, List.tail_cons] at hRest
        rw [splitFrom_comma, List.tail_cons, hFirst,
          List.forall_mem_cons, hIff, hRest]
        simp [stepDepth, isOpening, isClosing]
      · rw [splitFrom_cons hc, ih]
        exact (and_iff_right fun hComma hDepth =>
          absurd hDepth (hc hComma)).symm

instance (t : Text) :
    Decidable (BehindCommas DeclaresNothing 0 t) :=
  decidable_of_iff _ (ofText?_tail_eq_none_iff 0 [] t)

end Text

------------------------------------------------------------
-- Written Parameters
------------------------------------------------------------

/- A parameter as it is written in a list. -/
structure ParameterDraft where
  type : Text
  name : Text
  default : Option Text
  isWrittenType : Parameter.IsWrittenType type
  isBareName : Parameter.IsBareName name

namespace ParameterDraft

/- What stands between a name and a default value. -/
def equalsSign : Text :=
  " = ".toList

/- The text of a default value with its equals sign. -/
def valueText : Option Text → Text
| none => []
| some value => equalsSign ++ value

def text (d : ParameterDraft) : Text :=
  Parameter.written d.type d.name ++ valueText d.default

/- The parameter that a draft declares. -/
def parameter (d : ParameterDraft) : Parameter :=
  ⟨d.type, d.name⟩

/- What a default value declares besides. -/
def strays : Option Text → List Parameter
| none => []
| some value =>
  (Text.splitTopLevel value).tail.filterMap Parameter.ofText?

theorem isPlain_equalsSign : Text.IsPlain equalsSign := by
  decide

theorem strays_eq_nil_iff
    {default : Option Text} :
    strays default = [] ↔
      ∀ value ∈ default,
        Text.BehindCommas Text.DeclaresNothing 0 value := by
  cases default with
  | none => simp [strays]
  | some value =>
      rw [strays, List.filterMap_eq_nil_iff, Text.splitTopLevel,
        Text.ofText?_tail_eq_none_iff]
      simp

/- A draft declares its parameter, and strays behind it. -/
theorem listOfText_text (d : ParameterDraft) :
    Parameter.listOfText d.text =
      d.parameter :: strays d.default := by
  have hType := d.isWrittenType.isListType
  rw [text, parameter]
  cases d.default with
  | none =>
      exact Parameter.listOfText_written hType d.isBareName [] rfl
        (by simp)
  | some value =>
      rcases Text.exists_splitFrom_eq_cons 0 [] value with
        ⟨first, rest, hSplit⟩
      have hValue :
          Text.splitTopLevel (equalsSign ++ value) =
            (equalsSign ++ first) :: rest := by
        rw [Text.splitTopLevel_append
          (isPlain_equalsSign.isEnclosed 0)
          (isPlain_equalsSign.depthAfter_eq 0),
          Text.splitTopLevel, hSplit, List.modifyHead_cons]
      rw [valueText,
        Parameter.listOfText_written hType d.isBareName _ hValue,
        strays, Text.splitTopLevel, hSplit, List.tail_cons]
      intro c hc
      have hSpace : c = ' ' := by simpa [equalsSign] using hc
      rw [hSpace]
      rfl

theorem depthAfter_text (d : ParameterDraft) :
    Text.depthAfter 0 d.text =
      Text.depthAfter 0 (d.default.getD []) := by
  have hType := d.isWrittenType.isListType
  rw [text, Text.depthAfter_append,
    Parameter.depthAfter_written hType d.isBareName]
  cases d.default with
  | none => rfl
  | some value =>
      rw [valueText, Text.depthAfter_append,
        isPlain_equalsSign.depthAfter_eq, Option.getD_some]

------------------------------------------------------------
-- Round Trip
------------------------------------------------------------

/-
  A list of parameters is read back, default values dropped,
  just if no default value holds a comma outside of brackets
  that has a declaration behind it. All but the last have to
  close the brackets that they open.
-/
theorem listOfText_join_eq_iff
    (ds : List ParameterDraft)
    (hClosed :
      ∀ d ∈ ds.dropLast, ∀ value ∈ d.default,
        Text.depthAfter 0 value = 0) :
    Parameter.listOfText
        (Text.join Text.separator (ds.map text)) =
      ds.map parameter ↔
    ∀ d ∈ ds, ∀ value ∈ d.default,
      Text.BehindCommas Text.DeclaresNothing 0 value := by
  have hTexts :
      ∀ t ∈ (ds.map text).dropLast, Text.depthAfter 0 t = 0 := by
    rw [← List.map_dropLast]
    intro t ht
    rcases List.mem_map.mp ht with ⟨d, hd, rfl⟩
    rw [depthAfter_text]
    cases hValue : d.default with
    | none => rfl
    | some value => exact hClosed d hd value hValue
  have hRead :
      (ds.map text).flatMap Parameter.listOfText =
        ds.flatMap fun d => d.parameter :: strays d.default := by
    rw [List.flatMap_map]
    exact List.flatMap_congr fun d _ => listOfText_text d
  rw [Parameter.listOfText_join hTexts, hRead,
    flatMap_cons_eq_map_iff]
  exact forall₂_congr fun d _ => strays_eq_nil_iff

/-
  Commas and brackets in types and in calls, an equals sign
  in a string, and at the end a comma and an open bracket
  behind which nothing is declared.
-/
def mixedDrafts : List ParameterDraft :=
  [{ type := "Dictionary<string, (int, int)[]>".toList
     name := "map".toList
     default := none
     isWrittenType := by decide
     isBareName := by decide },
   { type := "int".toList
     name := "n".toList
     default := some "Max(1, Of<A, B>(2))".toList
     isWrittenType := by decide
     isBareName := by decide },
   { type := "params string?[]".toList
     name := "names".toList
     default := some "\"a=b )\"".toList
     isWrittenType := by decide
     isBareName := by decide },
   { type := "string".toList
     name := "last".toList
     default := some "\", = (\"".toList
     isWrittenType := by decide
     isBareName := by decide }]

theorem listOfText_join_mixedDrafts :
    (∀ d ∈ mixedDrafts.dropLast, ∀ value ∈ d.default,
      Text.depthAfter 0 value = 0) ∧
    (∀ d ∈ mixedDrafts, ∀ value ∈ d.default,
      Text.BehindCommas Text.DeclaresNothing 0 value) ∧
    Parameter.listOfText
        (Text.join Text.separator (mixedDrafts.map text)) =
      mixedDrafts.map parameter := by
  have hClosed :
      ∀ d ∈ mixedDrafts.dropLast, ∀ value ∈ d.default,
        Text.depthAfter 0 value = 0 := by
    decide
  have hNothing :
      ∀ d ∈ mixedDrafts, ∀ value ∈ d.default,
        Text.BehindCommas Text.DeclaresNothing 0 value := by
    decide
  exact ⟨hClosed, hNothing,
    (listOfText_join_eq_iff mixedDrafts hClosed).mpr hNothing⟩

end ParameterDraft

------------------------------------------------------------
-- Signs In Strings
------------------------------------------------------------

namespace Text

/-
  What stands outside of strings, where `inside` tells that
  one is open at the start.
-/
def outsideStrings (inside : Bool) : Text → Text
| [] => []
| c :: cs =>
  if c = '"' then outsideStrings (!inside) cs
  else if inside then outsideStrings inside cs
  else c :: outsideStrings inside cs

/- Whether commas and brackets stand in closed strings only. -/
structure KeepsSignsInStrings (t : Text) : Prop where
  closed : 2 ∣ t.count '"'
  outside : IsPlain (outsideStrings false t)

instance (t : Text) : Decidable (KeepsSignsInStrings t) :=
  decidable_of_iff
    (2 ∣ t.count '"' ∧ IsPlain (outsideStrings false t))
    ⟨fun h => ⟨h.1, h.2⟩, fun h => ⟨h.closed, h.outside⟩⟩

end Text

namespace ParameterDraft

/- A parameter whose default value is a sign in a string. -/
def ofSign
    (sign : Text) : ParameterDraft where
  type := "string".toList
  name := "s".toList
  default := some ('"' :: (sign ++ ['"']))
  isWrittenType := by decide
  isBareName := by decide

/- A parameter without a default value. -/
def plainDraft : ParameterDraft where
  type := "int".toList
  name := "x".toList
  default := none
  isWrittenType := by decide
  isBareName := by decide

/-
  A comma in a string starts a parameter, and a bracket in
  one hides the parameter behind it.
-/
theorem listOfText_join_changes :
    ((ofSign ", ".toList).default = some "\", \"".toList ∧
      Text.KeepsSignsInStrings "\", \"".toList ∧
      Parameter.listOfText
          (Text.join Text.separator
            ([ofSign ", ".toList, plainDraft].map text)) ≠
        [ofSign ", ".toList, plainDraft].map parameter) ∧
    ((ofSign "(".toList).default = some "\"(\"".toList ∧
      Text.KeepsSignsInStrings "\"(\"".toList ∧
      Parameter.listOfText
          (Text.join Text.separator
            ([ofSign "(".toList, plainDraft].map text)) ≠
        [ofSign "(".toList, plainDraft].map parameter) := by
  decide

end ParameterDraft

end SourceDocs
