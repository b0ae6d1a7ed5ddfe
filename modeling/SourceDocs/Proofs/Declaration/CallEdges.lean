import Mathlib.Data.List.Nodup
import SourceDocs.Proofs.Declaration.PropertyNames
import SourceDocs.Proofs.Selection

/-
  The edges that the calls in a body become.

  Each of the three kinds of calls is taken once for each of
  its keys, and calls on objects are left out where a call
  on a member has their target. So no edge is there twice,
  and none is lost: what is left out has an edge before it.

  Key definitions include:
    * `SourceDocs.CallEdge.ofKind`
    * `SourceDocs.CallEdge.AreDistinct`
    * `SourceDocs.CallEdge.Cover`

  Main results:
    * `SourceDocs.CallEdge.parted_all`
    * `SourceDocs.CallEdge.areDistinct_all`
    * `SourceDocs.CallEdge.cover_all`
    * `SourceDocs.CallEdge.all_distinct_and_complete`
-/

------------------------------------------------------------
-- Kinds Of Edges
------------------------------------------------------------

namespace SourceDocs

namespace CallEdge

/- The edges of one kind. -/
def ofKind
    (kind : CallKind)
    (edges : List CallEdge) : List CallEdge :=
  edges.filter fun e => decide (e.kind = kind)

variable (body : Text)

theorem ofKind_chain_all :
    ofKind .chain (all body) =
      (chains body).map ChainCall.edge := by
  simp [ofKind, all, List.filter_map, Function.comp_def,
    ChainCall.edge, DirectCall.edge, Creation.edge]

theorem ofKind_direct_all :
    ofKind .direct (all body) =
      (directs body).map DirectCall.edge := by
  simp [ofKind, all, List.filter_map, Function.comp_def,
    ChainCall.edge, DirectCall.edge, Creation.edge]

theorem ofKind_creation_all :
    ofKind .creation (all body) =
      (creations body).map Creation.edge := by
  simp [ofKind, all, List.filter_map, Function.comp_def,
    ChainCall.edge, DirectCall.edge, Creation.edge]

/- The kinds of edges come one after another. -/
theorem parted_all :
    all body =
      ofKind .chain (all body) ++
        ofKind .direct (all body) ++
        ofKind .creation (all body) := by
  rw [ofKind_chain_all, ofKind_direct_all, ofKind_creation_all]
  rfl

------------------------------------------------------------
-- No Edge Twice
------------------------------------------------------------

/-
  Whether no two edges of a kind say the same, and no edge
  on an object has the target of one on a member. Edges on
  objects have targets that start with capitals.
-/
structure AreDistinct (edges : List CallEdge) : Prop where
  chain_nodup : ((ofKind .chain edges).map chainKey).Nodup
  direct_nodup : ((ofKind .direct edges).map target).Nodup
  direct_upper :
    ∀ e ∈ ofKind .direct edges, startsUpper e.target = true
  direct_ne :
    ∀ e ∈ ofKind .direct edges, ∀ e' ∈ ofKind .chain edges,
      e.target ≠ e'.target
  creation_nodup : ((ofKind .creation edges).map target).Nodup

variable {body}

/- The calls on objects that edges are made from. -/
theorem mem_candidates_iff
    {call : DirectCall} :
    call ∈ (body.findAll DirectCall.reader).filter (fun call =>
        call.isPublic &&
          !((chains body).map ChainCall.method).contains
            call.method) ↔
      call ∈ body.findAll DirectCall.reader ∧
        startsUpper call.method = true ∧
        call.method ∉ (chains body).map ChainCall.method := by
  rw [List.mem_filter, Bool.and_eq_true, Bool.not_eq_true',
    Bool.eq_false_iff, ne_eq, List.contains_iff_mem]
  rfl

theorem of_mem_directs
    {call : DirectCall}
    (h : call ∈ directs body) :
    startsUpper call.method = true ∧
      call.method ∉ (chains body).map ChainCall.method :=
  (mem_candidates_iff.mp
    ((firstBy_sublist DirectCall.method _).subset h)).2

variable (body)

theorem areDistinct_all : AreDistinct (all body) := by
  constructor
  case chain_nodup =>
    rw [ofKind_chain_all, List.map_map]
    have hKeys := nodup_map_firstBy ChainCall.key
      (body.findAll ChainCall.reader)
    have hSome :=
      List.Nodup.map (fun _ _ => Option.some.inj) hKeys
    rw [List.map_map] at hSome
    exact hSome
  case direct_nodup =>
    rw [ofKind_direct_all, List.map_map]
    exact nodup_map_firstBy DirectCall.method _
  case direct_upper =>
    rw [ofKind_direct_all, List.forall_mem_map]
    intro call hCall
    exact (of_mem_directs hCall).1
  case direct_ne =>
    rw [ofKind_direct_all, ofKind_chain_all, List.forall_mem_map]
    intro call hCall
    rw [List.forall_mem_map]
    intro chained hChained hEq
    exact (of_mem_directs hCall).2
      (List.mem_map.mpr ⟨chained, hChained, hEq.symm⟩)
  case creation_nodup =>
    rw [ofKind_creation_all, List.map_map]
    exact nodup_map_firstBy Creation.type _

------------------------------------------------------------
-- No Call Lost
------------------------------------------------------------

/-
  Whether edges stand for all the calls in a body: for each
  on a member by its key, for each on an object whose method
  starts with a capital by its target, and for each making
  of an object. And each edge is that of some call, in the
  order of the calls.
-/
structure Cover
    (edges : List CallEdge)
    (body : Text) : Prop where
  chain :
    ∀ call ∈ body.findAll ChainCall.reader,
      ∃ e ∈ ofKind .chain edges,
        e.chainKey = some (call.member ++ '.' :: call.method)
  direct :
    ∀ call ∈ body.findAll DirectCall.reader,
      startsUpper call.method = true →
        ∃ e ∈ ofKind .chain edges ++ ofKind .direct edges,
          e.target = call.method
  creation :
    ∀ call ∈ body.findAll Creation.reader,
      call.edge ∈ ofKind .creation edges
  chain_found :
    (ofKind .chain edges).Sublist
      ((body.findAll ChainCall.reader).map ChainCall.edge)
  direct_found :
    (ofKind .direct edges).Sublist
      ((body.findAll DirectCall.reader).map DirectCall.edge)
  creation_found :
    (ofKind .creation edges).Sublist
      ((body.findAll Creation.reader).map Creation.edge)

theorem cover_all : Cover (all body) body := by
  constructor
  case chain =>
    intro call hCall
    have hKey : call.key ∈ (chains body).map ChainCall.key :=
      mem_map_firstBy_iff.mpr (List.mem_map_of_mem hCall)
    rcases List.mem_map.mp hKey with ⟨first, hFirst, hEq⟩
    rw [ofKind_chain_all]
    exact ⟨first.edge, List.mem_map_of_mem hFirst,
      congrArg some hEq⟩
  case direct =>
    intro call hCall hUpper
    rw [ofKind_chain_all, ofKind_direct_all]
    by_cases hChained :
        call.method ∈ (chains body).map ChainCall.method
    · rcases List.mem_map.mp hChained with ⟨chained, hMem, hEq⟩
      exact ⟨chained.edge,
        List.mem_append_left _ (List.mem_map_of_mem hMem), hEq⟩
    · have hMethod :
          call.method ∈ (directs body).map DirectCall.method :=
        mem_map_firstBy_iff.mpr
          (List.mem_map_of_mem
            (mem_candidates_iff.mpr ⟨hCall, hUpper, hChained⟩))
      rcases List.mem_map.mp hMethod with ⟨first, hMem, hEq⟩
      exact ⟨first.edge,
        List.mem_append_right _ (List.mem_map_of_mem hMem), hEq⟩
  case creation =>
    intro call hCall
    have hType :
        call.type ∈ (creations body).map Creation.type :=
      mem_map_firstBy_iff.mpr (List.mem_map_of_mem hCall)
    rcases List.mem_map.mp hType with ⟨⟨type⟩, hFirst, rfl⟩
    rw [ofKind_creation_all]
    exact List.mem_map_of_mem hFirst
  case chain_found =>
    rw [ofKind_chain_all]
    exact (firstBy_sublist ChainCall.key _).map _
  case direct_found =>
    rw [ofKind_direct_all]
    exact
      ((firstBy_sublist DirectCall.method _).trans
        List.filter_sublist).map _
  case creation_found =>
    rw [ofKind_creation_all]
    exact (firstBy_sublist Creation.type _).map _

/-
  The edges of a body come by kinds, no edge is there twice,
  and they stand for all the calls.
-/
theorem all_distinct_and_complete :
    all body =
        ofKind .chain (all body) ++
          ofKind .direct (all body) ++
          ofKind .creation (all body) ∧
      AreDistinct (all body) ∧
      Cover (all body) body :=
  ⟨parted_all body, areDistinct_all body, cover_all body⟩

example :
    all
        ("_context.Orders.Add(order); _context.Orders.Add(x);" ++
          "list.Add(order); log.Warn(1); log . Warn(new E());" ++
          "helper.compute(); new E (2); new F(3)").toList =
      [ChainCall.edge ⟨"Orders".toList, "Add".toList⟩,
       DirectCall.edge ⟨"log".toList, "Warn".toList⟩,
       Creation.edge ⟨"E".toList⟩,
       Creation.edge ⟨"F".toList⟩] := by
  decide +kernel

end CallEdge

end SourceDocs
