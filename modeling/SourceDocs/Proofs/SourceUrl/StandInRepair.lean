import SourceDocs.Proofs.SourceUrl.StandInEnds

/-
  Repair of the stand-ins in a text, piece by piece.

  A stand-in is judged by what it is read as, and the first
  one in a URL decides on the URL. A text is repaired piece
  by piece between the ends of addresses.

  Key definitions include:
    * `SourceDocs.Link.IsAddress`
    * `SourceDocs.UrlVerdict.Writes`
    * `SourceDocs.SourceRepair.KeepsStandIns`

  Main results:
    * `SourceDocs.SourceRepair.repairUrl_of_seen_cons`
    * `SourceDocs.SourceRepair.repairUrl_of_reader`
    * `SourceDocs.SourceRepair.repairStandIns_append`
    * `SourceDocs.SourceRepair.repairStandIns_eq_self`
-/

------------------------------------------------------------
-- Addresses
------------------------------------------------------------

namespace SourceDocs

namespace Link

/- Signs that end an address or start a label. -/
def signs : Text := ['"', '[', ']', ')']

/- A web address that can be written anywhere. -/
structure IsAddress (t : Text) : Prop where
  web : isWebTarget t = true
  free : ∀ c ∈ t, c ∉ signs

instance (t : Text) : Decidable (IsAddress t) :=
  decidable_of_iff
    (isWebTarget t = true ∧ ∀ c ∈ t, c ∉ signs)
    ⟨fun h => ⟨h.1, h.2⟩, fun h => ⟨h.web, h.free⟩⟩

theorem isWebTarget_iff
    {t : Text} :
    isWebTarget t = true ↔
      ∃ scheme ∈ StandInUrl.schemes, ∃ address,
        t = scheme ++ address ∧ address ≠ [] ∧
          ∀ c ∈ address, isBlank c = false := by
  constructor
  · intro h
    rw [isWebTarget] at h
    split at h
    · cases h
    · next scheme address hScheme =>
        rcases StandInUrl.webScheme?_eq_some_iff.mp hScheme with
          ⟨hMem, rfl⟩
        refine ⟨scheme, hMem, address, rfl, ?_⟩
        simpa using h
  · rintro ⟨scheme, hMem, address, rfl, hNil, hBlank⟩
    rw [isWebTarget,
      StandInUrl.webScheme?_eq_some_iff.mpr ⟨hMem, rfl⟩]
    simpa using ⟨hNil, hBlank⟩

/- A web address has no blanks. -/
theorem not_blank_of_isWebTarget
    {t : Text}
    (h : isWebTarget t = true) :
    ∀ c ∈ t, isBlank c = false := by
  rcases isWebTarget_iff.mp h with
    ⟨scheme, hMem, address, rfl, -, hBlank⟩
  have hSchemes :
      ∀ scheme ∈ StandInUrl.schemes, ∀ c ∈ scheme,
        isBlank c = false := by
    decide
  intro c hc
  rcases List.mem_append.mp hc with hc | hc
  · exact hSchemes scheme hMem c hc
  · exact hBlank c hc

namespace IsAddress

variable {t : Text}

/- How every address starts. -/
theorem exists_eq
    (h : IsAddress t) : ∃ u, t = 'h' :: 't' :: u := by
  rcases isWebTarget_iff.mp h.web with
    ⟨scheme, hMem, address, rfl, -⟩
  have hSchemes :
      ∀ scheme ∈ StandInUrl.schemes,
        scheme = 'h' :: 't' :: scheme.drop 2 := by
    decide
  rw [hSchemes scheme hMem]
  exact ⟨scheme.drop 2 ++ address, rfl⟩

end IsAddress

end Link

/- Whether a verdict writes nothing, or a URL such that `p`. -/
def UrlVerdict.Writes (p : Text → Prop) : UrlVerdict → Prop
| .replace url => p url
| .keep => True
| .remove => True

instance
    (p : Text → Prop)
    [DecidablePred p] :
    (verdict : UrlVerdict) → Decidable (verdict.Writes p)
| .replace url => inferInstanceAs (Decidable (p url))
| .keep => isTrue trivial
| .remove => isTrue trivial

namespace SourceRepair

variable {repair : SourceRepair}

/- Whether repair keeps every stand-in in a text. -/
def KeepsStandIns (repair : SourceRepair) (t : Text) : Prop :=
  ∀ found ∈ Text.seen StandInUrl.reader t,
    repair.repairStandIn found.1 = .keep

instance (repair : SourceRepair) (t : Text) :
    Decidable (repair.KeepsStandIns t) :=
  inferInstanceAs (Decidable (∀ _ ∈ _, _))

------------------------------------------------------------
-- Verdicts
------------------------------------------------------------

theorem findFirst?_of_seen
    {α : Type}
    (read : Reader α)
    (t : Text) :
    (t.findFirst? read).map (·.value) =
      (Text.seen read t).head?.map Prod.fst := by
  rw [Text.findFirst?, Text.seen_eq, List.head?_map,
    Option.map_map]
  rfl

/- The first stand-in decides on a URL. -/
theorem repairUrl_of_seen_cons
    {url x : Text}
    {v : StandInUrl}
    {rest : List (StandInUrl × Text)}
    (h : Text.seen StandInUrl.reader url = (v, x) :: rest) :
    repair.repairUrl url = repair.repairStandIn v := by
  have hFirst := findFirst?_of_seen StandInUrl.reader url
  rw [h] at hFirst
  rw [repairUrl]
  cases hFind : url.findFirst? StandInUrl.reader with
  | none => simp [hFind] at hFirst
  | some o =>
      rw [hFind] at hFirst
      cases hFirst
      rfl

/- Without stand-ins a URL is a blob URL, or kept. -/
theorem repairUrl_of_seen_nil
    {url : Text}
    (h : Text.seen StandInUrl.reader url = []) :
    repair.repairUrl url =
      match BlobUrl.ofText? url with
      | some blob => repair.repairBlob blob
      | none => .keep := by
  have hFirst := findFirst?_of_seen StandInUrl.reader url
  rw [h] at hFirst
  rw [repairUrl]
  cases hFind : url.findFirst? StandInUrl.reader with
  | none => rfl
  | some o => simp [hFind] at hFirst

end SourceRepair

namespace StandInUrl

/- What a stand-in covers is read alone as it was read. -/
theorem reader_covered
    {x u : Text}
    {v : StandInUrl}
    (h : reader none (x ++ u) = some (v, x)) :
    reader none x = some (v, x) := by
  by_cases hRest : v = ⟨[]⟩
  · subst hRest
    rcases reader_eq_some_iff.mp h with
      ⟨front, hFront, rest, -, -, hValue, hCovered⟩
    have hNil : restOf rest = [] := by
      simpa using hValue.symm
    rw [hNil, List.append_nil] at hCovered
    subst hCovered
    have hMark : ¬ linkMark <+: [] := by
      decide
    have hRead : reader none (x ++ []) = some (⟨[]⟩, x) :=
      reader_eq_some_iff.mpr
        ⟨x, hFront, [], rfl, fun _ => hMark, rfl,
          (List.append_nil x).symm⟩
    rwa [List.append_nil] at hRead
  · rwa [reader_append_of_ends (ends_of_reader h hRest)] at h

/- It starts with a scheme and goes on without blanks. -/
theorem isAddress_of_reader
    {x u : Text}
    {v : StandInUrl}
    (h : reader none (x ++ u) = some (v, x))
    (hOpen : '[' ∉ x) : Link.IsAddress x := by
  rcases reader_eq_some_iff.mp h with
    ⟨front, hFront, rest, -, -, -, rfl⟩
  have hAll :
      ∀ c ∈ front ++ restOf rest, isRestChar c = true := by
    intro c hc
    rcases List.mem_append.mp hc with hc | hc
    · exact isRestChar_of_mem_fronts hFront c hc
    · exact isRestChar_of_mem_restOf hc
  have hPlain :
      ∀ c ∈ front ++ restOf rest,
        isBlank c = false ∧ c ≠ '"' ∧ c ≠ ']' ∧ c ≠ ')' := by
    intro c hc
    have h := hAll c hc
    simp only [isRestChar, BlobUrl.isPlain, Bool.and_eq_true,
      Bool.not_eq_true', bne_iff_ne] at h
    exact ⟨h.1.1.1, h.1.1.2, h.2, h.1.2⟩
  constructor
  · rcases List.mem_flatMap.mp hFront with
      ⟨scheme, hScheme, hFront⟩
    rcases List.mem_map.mp hFront with ⟨name, -, rfl⟩
    have hHost : repositoryHost ≠ [] := by
      decide
    rw [List.append_assoc, List.append_assoc] at hPlain ⊢
    exact Link.isWebTarget_iff.mpr
      ⟨scheme, hScheme, repositoryHost ++ (name ++ restOf rest),
        rfl, List.append_ne_nil_of_left_ne_nil hHost _,
        fun c hc => (hPlain c (List.mem_append_right _ hc)).1⟩
  · intro c hc hSign
    have hPlain := hPlain c hc
    simp only [Link.signs, List.mem_cons, List.not_mem_nil,
      or_false] at hSign
    rcases hSign with rfl | rfl | rfl | rfl
    · exact hPlain.2.1 rfl
    · exact hOpen hc
    · exact hPlain.2.2.1 rfl
    · exact hPlain.2.2.2 rfl

------------------------------------------------------------
-- What Is Seen
------------------------------------------------------------

theorem seen_of_found
    {x u : Text}
    {v : StandInUrl}
    (h : reader none (x ++ u) = some (v, x)) :
    Text.seen reader (x ++ u) =
      (v, x) :: Text.seen reader u :=
  Text.collect_of_found reader_steady h (covered_ne_nil h)

theorem seen_cons
    {c : Char}
    {t : Text}
    (h : reader none (c :: t) = none) :
    Text.seen reader (c :: t) = Text.seen reader t :=
  Text.collect_cons reader_steady ((skips_iff _).mpr h)

theorem seen_append_of_ends
    {t : Text}
    (hEnds : Ends t)
    (s : Text) :
    Text.seen reader (s ++ t) =
      Text.seen reader s ++ Text.seen reader t :=
  Text.collect_append reader_steady fun s' _ _ =>
    reader_append_of_ends hEnds s'

/- No stand-in starts with any other character. -/
theorem reader_of_ne
    {c : Char}
    (hc : c ≠ 'h')
    (t : Text) : reader none (c :: t) = none := by
  rw [reader_eq_none_iff]
  rintro front hFront ⟨u, hEq⟩
  have hHead : ∀ front ∈ fronts, front.head? = some 'h' := by
    decide
  rcases List.head?_eq_some_iff.mp (hHead front hFront) with
    ⟨front, rfl⟩
  exact hc (List.cons.inj hEq).1.symm

end StandInUrl

namespace SourceRepair

variable {repair : SourceRepair}

/- A stand-in that is read is judged by its value. -/
theorem repairUrl_of_reader
    {x u : Text}
    {v : StandInUrl}
    (h : StandInUrl.reader none (x ++ u) = some (v, x)) :
    repair.repairUrl x = repair.repairStandIn v := by
  have hAlone := StandInUrl.reader_covered h
  rw [← List.append_nil x] at hAlone
  have hSeen := StandInUrl.seen_of_found
    (hAlone.trans (by rw [List.append_nil]))
  rw [List.append_nil] at hSeen
  exact repairUrl_of_seen_cons hSeen

------------------------------------------------------------
-- Repair, Piece By Piece
------------------------------------------------------------

theorem repairStandIns_eq_collect
    (repair : SourceRepair)
    (t : Text) :
    repair.repairStandIns t =
      Text.collect StandInUrl.reader (fun c => [c])
        (fun _ x => repair.repairBare x) t :=
  Text.replace_eq_collected (fun _ x => repair.repairBare x)
    (t.cut StandInUrl.reader)

theorem repairStandIns_append
    {t : Text}
    (hEnds : StandInUrl.Ends t)
    (s : Text) :
    repair.repairStandIns (s ++ t) =
      repair.repairStandIns s ++ repair.repairStandIns t := by
  simp only [repairStandIns_eq_collect]
  exact Text.collect_append StandInUrl.reader_steady
    fun s' _ _ => StandInUrl.reader_append_of_ends hEnds s'

theorem repairStandIns_of_found
    {x u : Text}
    {v : StandInUrl}
    (h : StandInUrl.reader none (x ++ u) = some (v, x)) :
    repair.repairStandIns (x ++ u) =
      repair.repairBare x ++ repair.repairStandIns u := by
  simp only [repairStandIns_eq_collect]
  exact Text.collect_of_found StandInUrl.reader_steady h
    (StandInUrl.covered_ne_nil h)

theorem repairStandIns_cons
    {c : Char}
    {t : Text}
    (h : StandInUrl.reader none (c :: t) = none) :
    repair.repairStandIns (c :: t) =
      c :: repair.repairStandIns t := by
  simp only [repairStandIns_eq_collect]
  exact Text.collect_cons StandInUrl.reader_steady
    ((StandInUrl.skips_iff _).mpr h)

/- Where all stand-ins are kept, nothing is changed. -/
theorem repairStandIns_eq_self
    {t : Text}
    (h : repair.KeepsStandIns t) :
    repair.repairStandIns t = t := by
  rw [repairStandIns_eq_collect]
  apply Text.collect_eq_self StandInUrl.reader_steady
  intro o ho
  have hRead :=
    (Text.cutsTo_cut StandInUrl.reader_steady t).found ho
  have hMem :
      (o.value, o.covered) ∈ Text.seen StandInUrl.reader t := by
    rw [Text.seen_eq]
    exact List.mem_map_of_mem
      (f := fun o => (o.value, o.covered)) ho
  have hKept : repair.repairUrl o.covered = .keep :=
    (repairUrl_of_reader hRead).trans (h _ hMem)
  rw [repairBare, hKept]

end SourceRepair

end SourceDocs
