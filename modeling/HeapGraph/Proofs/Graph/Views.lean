import HeapGraph.Proofs.Graph.Invariant
import Mathlib.Data.List.Nodup
import Mathlib.Data.List.Sort

/-!
What the questions that a graph answers come to when its parts agree: each is a question about its
list of objects or its list of references.
-/

namespace HeapGraph.Graph.Agrees

variable {graph : Graph}

theorem node?_eq_some (agrees : graph.Agrees) {id : String} {node : Node} :
    graph.node? id = some node ↔ node ∈ graph.nodes ∧ node.id = id := by
  unfold node?
  rw [Option.bind_eq_some_iff]
  constructor
  · rintro ⟨slot, found, live⟩
    obtain ⟨other, otherLive, same⟩ := (agrees.ids id slot).mp found
    rw [live] at otherLive
    rw [← Option.some.inj otherLive] at same
    exact ⟨mem_nodes.mpr ⟨slot, live⟩, same⟩
  · rintro ⟨member, same⟩
    obtain ⟨slot, live⟩ := mem_nodes.mp member
    exact ⟨slot, (agrees.ids id slot).mpr ⟨node, live, same⟩, live⟩

theorem node?_eq_none_iff (agrees : graph.Agrees) {id : String} :
    graph.node? id = none ↔ ∀ node ∈ graph.nodes, node.id ≠ id := by
  rw [Option.eq_none_iff_forall_ne_some]
  refine forall_congr' fun node => ?_
  rw [Ne, agrees.node?_eq_some, not_and]

theorem contains_iff (agrees : graph.Agrees) {id : String} :
    graph.contains id = true ↔ ∃ node ∈ graph.nodes, node.id = id := by
  unfold contains
  rw [Std.ExtTreeMap.contains_eq_isSome_getElem?, Option.isSome_iff_exists]
  constructor
  · rintro ⟨slot, found⟩
    obtain ⟨node, live, same⟩ := (agrees.ids id slot).mp found
    exact ⟨node, mem_nodes.mpr ⟨slot, live⟩, same⟩
  · rintro ⟨node, member, same⟩
    obtain ⟨slot, live⟩ := mem_nodes.mp member
    exact ⟨slot, (agrees.ids id slot).mpr ⟨node, live, same⟩⟩

theorem nodup_ids (agrees : graph.Agrees) : (graph.nodes.map Node.id).Nodup := by
  rw [nodes_eq, List.map_filterMap]
  refine List.nodup_range.filterMap ?_
  intro first second id firstFound secondFound
  simp only [Option.mem_def, Option.map_eq_some_iff] at firstFound secondFound
  obtain ⟨left, leftLive, leftId⟩ := firstFound
  obtain ⟨right, rightLive, rightId⟩ := secondFound
  exact agrees.slot_unique leftLive rightLive (leftId.trans rightId.symm)

theorem nodup_nodes (agrees : graph.Agrees) : graph.nodes.Nodup :=
  agrees.nodup_ids.of_map

theorem nodeCount_eq (agrees : graph.Agrees) : graph.nodeCount = graph.nodes.length :=
  size_of_getElem?_iff Node.id agrees.ids

theorem edgeCount_eq (agrees : graph.Agrees) : graph.edgeCount = graph.edges.length := by
  rw [edgeCount, agrees.count, links_eq, edges, List.length_filterMap_eq_countP,
    List.length_filterMap_eq_countP]
  simp only [agrees.edgeAt?_isSome]

/-- A bucket lists its references in the order of the graph, and drops none of them. -/
theorem filed_eq (agrees : graph.Agrees) {index : Index} {endpoint : Link → Nat}
    {read : Edge → Node} (files : graph.Files index endpoint)
    (reads : ∀ {slot link edge}, graph.linkAt? slot = some link → graph.edgeAt? slot = some edge →
      graph.nodeAt? (endpoint link) = some (read edge)) (id : String) :
    graph.filed index id = graph.edges.filter fun edge => (read edge).id = id := by
  unfold filed
  split
  next absent =>
    symm
    rw [List.filter_eq_nil_iff]
    intro edge member same
    have found := mem_edges.mp member
    obtain ⟨_, link, linked, _⟩ := edgeAt?_eq_some.mp found
    rw [(agrees.ids id (endpoint link)).mpr
      ⟨read edge, reads linked found, of_decide_eq_true same⟩] at absent
    cases absent
  next node found =>
    obtain ⟨owner, ownerLive, ownerId⟩ := (agrees.ids id node).mp found
    have member (slot : Nat) : slot ∈ (index.bucket node).toList ↔
        slot ∈ (List.range graph.edgeSlots.size).filter fun slot =>
          (graph.edgeAt? slot).any fun edge => (read edge).id = id := by
      rw [Std.ExtTreeSet.mem_toList, files.mem_bucket, List.mem_filter, List.mem_range,
        Option.any_eq_true]
      constructor
      · rintro ⟨link, linked, rfl⟩
        obtain ⟨edge, edgeFound, _⟩ := agrees.edgeAt?_of_linkAt? linked
        have live := reads linked edgeFound
        rw [ownerLive] at live
        exact ⟨linkAt?_lt linked, edge, edgeFound, by simp [← Option.some.inj live, ownerId]⟩
      · rintro ⟨_, edge, edgeFound, same⟩
        obtain ⟨_, link, linked, _⟩ := edgeAt?_eq_some.mp edgeFound
        have sameId := (of_decide_eq_true same).trans ownerId.symm
        exact ⟨link, linked, agrees.slot_unique (reads linked edgeFound) ownerLive sameId⟩
    -- A bucket is sorted and so are the slots, so having the same members makes them one list.
    have sorted : (index.bucket node).toList.Pairwise (· < ·) :=
      Std.ExtTreeSet.ordered_toList.imp fun less => Nat.compare_eq_lt.mp less
    rw [sorted.eq_of_mem_iff (List.pairwise_lt_range.filter _) member, edges,
      List.filter_filterMap, List.filterMap_filter]
    apply List.filterMap_congr
    intro slot _
    cases graph.edgeAt? slot with
    | none => rfl
    | some edge => simp [Option.filter]

theorem forwardOf_eq (agrees : graph.Agrees) (id : String) :
    graph.forwardOf id = graph.edges.filter fun edge => edge.src.id = id := by
  refine agrees.filed_eq agrees.forward ?_ id
  intro slot link edge linked found
  obtain ⟨_, kept, keptLinked, src, _⟩ := edgeAt?_eq_some.mp found
  rw [linked] at keptLinked
  rwa [Option.some.inj keptLinked]

theorem reverseOf_eq (agrees : graph.Agrees) (id : String) :
    graph.reverseOf id = graph.edges.filter fun edge => edge.dst.id = id := by
  refine agrees.filed_eq agrees.reverse ?_ id
  intro slot link edge linked found
  obtain ⟨_, kept, keptLinked, _, dst, _⟩ := edgeAt?_eq_some.mp found
  rw [linked] at keptLinked
  rwa [Option.some.inj keptLinked]

end HeapGraph.Graph.Agrees
