import HeapGraph.Proofs.Graph.Views
import HeapGraph.Proofs.Loops

/-!
Building a graph: it holds the objects as they were given, and of the references the first one of
each source, destination and name, in slots without gaps.
-/

namespace HeapGraph

def Edge.reference (edge : Edge) : Reference :=
  ⟨edge.src.id, edge.dst.id, edge.name⟩

namespace Graph

theorem Agrees.fresh_slot {graph : Graph} (agrees : graph.Agrees) {id : String}
    (fresh : graph.ids.contains id = false) {slot : Nat} {node : Node}
    (live : graph.nodeAt? slot = some node) : node.id ≠ id := by
  intro same
  have found := (agrees.ids id slot).mpr ⟨node, live, same⟩
  rw [Std.ExtTreeMap.contains_eq_isSome_getElem?, found] at fresh
  cases fresh

theorem Consistent.addNode {graph grown : Graph} {node : Node} (consistent : graph.Consistent)
    (added : graph.addNode node = .ok grown) :
    grown.Consistent ∧ grown.nodes = graph.nodes ++ [node] ∧ grown.edgeSlots = graph.edgeSlots := by
  unfold Graph.addNode at added
  split at added
  · cases added
  · rename_i contained
    have fresh : graph.ids.contains node.id = false := Bool.eq_false_iff.mpr contained
    cases added
    let grown : Graph := { graph with
      ids := graph.ids.insert node.id graph.nodeSlots.size
      nodeSlots := graph.nodeSlots.push (some node) }
    have nodeAt (slot : Nat) : grown.nodeAt? slot =
        if slot = graph.nodeSlots.size then some node else graph.nodeAt? slot :=
      join_push graph.nodeSlots node slot
    have empty : graph.nodeAt? graph.nodeSlots.size = none := join_size graph.nodeSlots
    have stays {slot : Nat} (live : (graph.nodeAt? slot).isSome) : (grown.nodeAt? slot).isSome := by
      rw [nodeAt]
      split
      · rfl
      · exact live
    have ends (slot : Nat) (link : Link) (linked : graph.linkAt? slot = some link) :=
      consistent.ends slot link linked
    refine ⟨⟨⟨?_, fun slot link linked => ⟨stays (ends slot link linked).1,
      stays (ends slot link linked).2⟩, ?_, ?_, consistent.keys, consistent.count⟩,
      consistent.forwardTidy, consistent.reverseTidy⟩, ?_, rfl⟩
    · intro id slot
      change (graph.ids.insert node.id graph.nodeSlots.size)[id]? = some slot ↔
        ∃ other, grown.nodeAt? slot = some other ∧ other.id = id
      rw [nodeAt]
      have unused (place : Nat) :
          ¬∃ other, graph.nodeAt? place = some other ∧ other.id = node.id := by
        rintro ⟨other, live, same⟩
        exact consistent.fresh_slot fresh live same
      rw [getElem?_insert_iff consistent.ids unused]
      by_cases last : slot = graph.nodeSlots.size
      · simp [last, empty, eq_comm]
      · simp [last]
    · exact Files.of_tidy consistent.forwardTidy
        (fun slot link linked => stays (ends slot link linked).1) consistent.forward.mem_bucket
    · exact Files.of_tidy consistent.reverseTidy
        (fun slot link linked => stays (ends slot link linked).2) consistent.reverse.mem_bucket
    · simp [nodes]

theorem Consistent.foldlM_addNode {nodes : List Node} {graph grown : Graph}
    (consistent : graph.Consistent) (added : nodes.foldlM Graph.addNode graph = .ok grown) :
    grown.Consistent ∧ grown.nodes = graph.nodes ++ nodes ∧ grown.edgeSlots = graph.edgeSlots := by
  induction nodes generalizing graph with
  | nil =>
      cases added
      exact ⟨consistent, by simp, rfl⟩
  | cons node nodes ih =>
      obtain ⟨next, first, rest⟩ := foldlM_cons_ok added
      obtain ⟨nextConsistent, nextNodes, nextEdges⟩ := consistent.addNode first
      obtain ⟨grownConsistent, grownNodes, grownEdges⟩ := ih nextConsistent rest
      exact ⟨grownConsistent, by simp [grownNodes, nextNodes], grownEdges.trans nextEdges⟩

theorem linkAt?_addLink (graph : Graph) (link : Link) (slot : Nat) :
    (graph.addLink link).linkAt? slot =
      if slot = graph.edgeSlots.size then some link else graph.linkAt? slot :=
  join_push graph.edgeSlots link slot

theorem Files.mem_file {graph : Graph} {index : Index} {endpoint : Link → Nat}
    (files : graph.Files index endpoint) (link : Link) (node slot : Nat) :
    slot ∈ (index.file (endpoint link) graph.edgeSlots.size).bucket node ↔
      ∃ kept, (graph.addLink link).linkAt? slot = some kept ∧ endpoint kept = node := by
  have empty : graph.linkAt? graph.edgeSlots.size = none := join_size graph.edgeSlots
  rw [Index.bucket_file, linkAt?_addLink]
  by_cases last : slot = graph.edgeSlots.size
  · subst slot
    by_cases same : endpoint link = node
    · simp [same]
    · simp [same, files.mem_bucket, empty]
  · by_cases same : endpoint link = node
    · simp [same, last, Ne.symm last, files.mem_bucket]
    · simp [same, last, files.mem_bucket]

theorem Consistent.addLink {graph : Graph} (consistent : graph.Consistent) {link : Link}
    (fresh : graph.keys.contains link = false) (src : (graph.nodeAt? link.src).isSome)
    (dst : (graph.nodeAt? link.dst).isSome) : (graph.addLink link).Consistent := by
  have empty : graph.linkAt? graph.edgeSlots.size = none := join_size graph.edgeSlots
  have ends (slot : Nat) (kept : Link) (linked : (graph.addLink link).linkAt? slot = some kept) :
      (graph.nodeAt? kept.src).isSome ∧ (graph.nodeAt? kept.dst).isSome := by
    rw [linkAt?_addLink] at linked
    split at linked
    · cases linked
      exact ⟨src, dst⟩
    · exact consistent.ends slot kept linked
  have forwardTidy := consistent.forwardTidy.file link.src graph.edgeSlots.size
  have reverseTidy := consistent.reverseTidy.file link.dst graph.edgeSlots.size
  refine ⟨⟨consistent.ids, ends, ?_, ?_, ?_, ?_⟩, forwardTidy, reverseTidy⟩
  · exact Files.of_tidy forwardTidy (fun slot kept linked => (ends slot kept linked).1)
      (consistent.forward.mem_file link)
  · exact Files.of_tidy reverseTidy (fun slot kept linked => (ends slot kept linked).2)
      (consistent.reverse.mem_file link)
  · intro key slot
    change (graph.keys.insert link graph.edgeSlots.size)[key]? = some slot ↔ _
    rw [linkAt?_addLink]
    have unkeyed (place : Nat) : graph.linkAt? place ≠ some link := by
      rw [Ne, ← consistent.keys, Std.ExtTreeMap.getElem?_eq_none_of_contains_eq_false fresh]
      simp
    rw [getElem?_insert_iff consistent.keys unkeyed]
    by_cases last : slot = graph.edgeSlots.size
    · simp [last, empty, eq_comm]
    · simp [last]
  · have counted := consistent.count
    simp only [links] at counted
    simp [Graph.addLink, links, counted]

theorem edges_addLink {graph : Graph} (link : Link) {src dst : Node}
    (srcFound : graph.nodeAt? link.src = some src) (dstFound : graph.nodeAt? link.dst = some dst) :
    (graph.addLink link).edges = graph.edges ++ [⟨graph.edgeSlots.size, src, dst, link.name⟩] := by
  have last : (graph.addLink link).edgeAt? graph.edgeSlots.size =
      some ⟨graph.edgeSlots.size, src, dst, link.name⟩ := by
    refine edgeAt?_eq_some.mpr ⟨rfl, link, ?_, srcFound, dstFound, rfl⟩
    rw [linkAt?_addLink, if_pos rfl]
  have before (slot : Nat) (below : slot ∈ List.range graph.edgeSlots.size) :
      (graph.addLink link).edgeAt? slot = graph.edgeAt? slot := by
    have earlier : slot ≠ graph.edgeSlots.size := by
      have := List.mem_range.mp below
      omega
    have linkAt : (graph.addLink link).linkAt? slot = graph.linkAt? slot := by
      rw [linkAt?_addLink, if_neg earlier]
    unfold edgeAt?
    rw [linkAt]
    rfl
  have size : (graph.addLink link).edgeSlots.size = graph.edgeSlots.size + 1 := by
    simp [addLink]
  rw [edges, edges, size, List.range_succ, List.filterMap_append, List.filterMap_congr before]
  simp [last]

theorem Agrees.contains_keys {graph : Graph} (agrees : graph.Agrees) (link : Link) {src dst : Node}
    (srcFound : graph.nodeAt? link.src = some src) (dstFound : graph.nodeAt? link.dst = some dst) :
    graph.keys.contains link = true ↔
      ∃ edge ∈ graph.edges, edge.reference = ⟨src.id, dst.id, link.name⟩ := by
  rw [Std.ExtTreeMap.contains_eq_isSome_getElem?, Option.isSome_iff_exists]
  constructor
  · rintro ⟨slot, keyed⟩
    obtain ⟨edge, found, edgeSrc, edgeDst, name⟩ :=
      agrees.edgeAt?_of_linkAt? ((agrees.keys link slot).mp keyed)
    rw [srcFound] at edgeSrc
    rw [dstFound] at edgeDst
    refine ⟨edge, mem_edges.mpr ?_, ?_⟩
    · rwa [(edgeAt?_eq_some.mp found).1]
    · rw [Edge.reference, ← Option.some.inj edgeSrc, ← Option.some.inj edgeDst, name]
  · rintro ⟨edge, member, same⟩
    obtain ⟨_, kept, linked, edgeSrc, edgeDst, name⟩ := edgeAt?_eq_some.mp (mem_edges.mp member)
    simp only [Edge.reference, Reference.mk.injEq] at same
    have sameSrc := agrees.slot_unique edgeSrc srcFound same.1
    have sameDst := agrees.slot_unique edgeDst dstFound same.2.1
    refine ⟨edge.slot, (agrees.keys link edge.slot).mpr ?_⟩
    cases kept
    cases link
    simp_all

def entries (graph : Graph) : List (Reference × Nat) :=
  graph.edges.map fun edge => (edge.reference, edge.slot)

/-- A graph under construction holds the first of each kind among the references it was given. -/
structure Holds (graph : Graph) (references : List Reference) : Prop where
  entries : graph.entries = references.eraseDups.zipIdx
  size : graph.edgeSlots.size = references.eraseDups.length

theorem Holds.references {graph : Graph} {references : List Reference}
    (holds : graph.Holds references) :
    graph.edges.map Edge.reference = references.eraseDups := by
  have firsts := congrArg (List.map Prod.fst) holds.entries
  simpa [Graph.entries, List.zipIdx_map_fst, Function.comp_def] using firsts

theorem Holds.reference_mem {graph : Graph} {references : List Reference}
    (holds : graph.Holds references) (reference : Reference) :
    (∃ edge ∈ graph.edges, edge.reference = reference) ↔ reference ∈ references := by
  rw [← List.mem_eraseDups, ← holds.references, List.mem_map]

theorem resolve_eq_ok {graph : Graph} {reference : Reference} {id : String} {slot : Nat}
    (resolved : graph.resolve reference id = .ok slot) : graph.ids[id]? = some slot := by
  unfold resolve at resolved
  split at resolved
  · cases resolved
    assumption
  · cases resolved

theorem Consistent.addReference {graph grown : Graph} {reference : Reference}
    {references : List Reference} (consistent : graph.Consistent) (holds : graph.Holds references)
    (added : graph.addReference reference = .ok grown) :
    grown.Consistent ∧ grown.nodes = graph.nodes ∧ grown.Holds (references ++ [reference]) := by
  unfold Graph.addReference at added
  split at added
  · cases added
  rename_i srcSlot srcResolved
  split at added
  · cases added
  rename_i dstSlot dstResolved
  obtain ⟨src, srcFound, srcId⟩ := (consistent.ids _ _).mp (resolve_eq_ok srcResolved)
  obtain ⟨dst, dstFound, dstId⟩ := (consistent.ids _ _).mp (resolve_eq_ok dstResolved)
  let link : Link := ⟨srcSlot, dstSlot, reference.name⟩
  have known : graph.keys.contains link = true ↔ reference ∈ references := by
    rw [consistent.contains_keys link srcFound dstFound, ← holds.reference_mem, srcId,
      dstId]
  cases contained : graph.keys.contains link with
  | true =>
      simp only [link] at contained
      simp only [contained, if_true, Except.ok.injEq] at added
      subst grown
      have member := known.mp contained
      have same : (references ++ [reference]).eraseDups = references.eraseDups := by
        simp [List.eraseDups_append, List.removeAll, member]
      exact ⟨consistent, rfl, by rw [same]; exact holds.entries, by rw [same]; exact holds.size⟩
  | false =>
      simp only [link] at contained
      simp only [contained, Bool.false_eq_true, if_false, Except.ok.injEq] at added
      subst grown
      have absent : reference ∉ references := fun member => by
        rw [known.mpr member] at contained
        cases contained
      have same : (references ++ [reference]).eraseDups = references.eraseDups ++ [reference] := by
        simp [List.eraseDups_append, List.eraseDups_cons, List.removeAll, absent]
      refine ⟨consistent.addLink contained (by simp [srcFound]) (by simp [dstFound]), rfl, ?_, ?_⟩
      · have edges := edges_addLink link srcFound dstFound
        simp only [Graph.entries, link] at edges ⊢
        rw [edges, same, List.map_append, List.zipIdx_append]
        congr 1
        · exact holds.entries
        · simp [Edge.reference, srcId, dstId, holds.size]
      · simp [same, Graph.addLink, holds.size]

theorem Consistent.foldlM_addReference {references done : List Reference} {graph grown : Graph}
    (consistent : graph.Consistent) (holds : graph.Holds done)
    (added : references.foldlM Graph.addReference graph = .ok grown) :
    grown.Consistent ∧ grown.nodes = graph.nodes ∧ grown.Holds (done ++ references) := by
  induction references generalizing graph done with
  | nil =>
      cases added
      exact ⟨consistent, rfl, by simpa using holds⟩
  | cons reference references ih =>
      obtain ⟨next, first, rest⟩ := foldlM_cons_ok added
      obtain ⟨nextConsistent, nextNodes, nextHolds⟩ := consistent.addReference holds first
      obtain ⟨grownConsistent, grownNodes, grownHolds⟩ := ih nextConsistent nextHolds rest
      exact ⟨grownConsistent, grownNodes.trans nextNodes, by simpa using grownHolds⟩

theorem holds_nil {graph : Graph} (bare : graph.edgeSlots = empty.edgeSlots) : graph.Holds [] := by
  have none : graph.edgeSlots = #[] := bare
  constructor <;> simp [Graph.entries, edges, none]

theorem foldlM_addNode_empty {nodes : List Node} {graph : Graph}
    (added : nodes.foldlM addNode empty = .ok graph) :
    graph.Consistent ∧ graph.nodes = nodes ∧ graph.Holds [] := by
  obtain ⟨consistent, live, bare⟩ := consistent_empty.foldlM_addNode added
  exact ⟨consistent, live, holds_nil bare⟩

theorem ofRecords_holds {nodes : List Node} {references : List Reference} {graph : Graph}
    (accepted : ofRecords nodes references = .ok graph) :
    graph.Consistent ∧ graph.nodes = nodes ∧ graph.Holds references := by
  unfold ofRecords at accepted
  split at accepted
  · cases accepted
  rename_i bare nodesAdded
  obtain ⟨bareConsistent, bareNodes, bareHolds⟩ := foldlM_addNode_empty nodesAdded
  obtain ⟨consistent, sameNodes, holds⟩ := bareConsistent.foldlM_addReference bareHolds accepted
  exact ⟨consistent, sameNodes.trans bareNodes, by simpa using holds⟩

theorem Agrees.addNode_ok {graph : Graph} (agrees : graph.Agrees) {node : Node}
    (fresh : ∀ other ∈ graph.nodes, other.id ≠ node.id) :
    ∃ grown, graph.addNode node = .ok grown := by
  unfold addNode
  split
  next contained =>
    obtain ⟨other, member, same⟩ := agrees.contains_iff.mp contained
    exact absurd same (fresh other member)
  next => exact ⟨_, rfl⟩

theorem Consistent.foldlM_addNode_ok (nodes : List Node) {graph : Graph}
    (consistent : graph.Consistent) (distinct : ((graph.nodes ++ nodes).map Node.id).Nodup) :
    ∃ grown, nodes.foldlM Graph.addNode graph = .ok grown := by
  induction nodes generalizing graph with
  | nil => exact ⟨graph, rfl⟩
  | cons node nodes ih =>
      have fresh (other : Node) (member : other ∈ graph.nodes) : other.id ≠ node.id := by
        rw [List.map_append, List.nodup_append] at distinct
        exact distinct.2.2 _ (List.mem_map_of_mem member) _ (by simp)
      obtain ⟨next, added⟩ := consistent.addNode_ok fresh
      obtain ⟨nextConsistent, nextNodes, _⟩ := consistent.addNode added
      rw [List.foldlM_cons, added]
      exact ih nextConsistent (by simpa [nextNodes] using distinct)

theorem Agrees.resolve_ok {graph : Graph} (agrees : graph.Agrees) (reference : Reference)
    {id : String} (known : id ∈ graph.nodes.map Node.id) :
    ∃ slot, graph.resolve reference id = .ok slot := by
  obtain ⟨node, member, same⟩ := List.mem_map.mp known
  obtain ⟨slot, live⟩ := mem_nodes.mp member
  exact ⟨slot, by rw [resolve, (agrees.ids id slot).mpr ⟨node, live, same⟩]⟩

theorem Consistent.foldlM_addReference_ok {references done : List Reference} {graph : Graph}
    (consistent : graph.Consistent) (holds : graph.Holds done)
    (known : ∀ reference ∈ references, reference.src ∈ graph.nodes.map Node.id ∧
      reference.dst ∈ graph.nodes.map Node.id) :
    ∃ grown, references.foldlM Graph.addReference graph = .ok grown := by
  induction references generalizing graph done with
  | nil => exact ⟨graph, rfl⟩
  | cons reference references ih =>
      obtain ⟨srcKnown, dstKnown⟩ := known reference (by simp)
      obtain ⟨src, srcResolved⟩ := consistent.resolve_ok reference srcKnown
      obtain ⟨dst, dstResolved⟩ := consistent.resolve_ok reference dstKnown
      obtain ⟨next, added⟩ : ∃ next, graph.addReference reference = .ok next := by
        unfold Graph.addReference
        rw [srcResolved]
        simp only [dstResolved]
        exact ⟨_, rfl⟩
      obtain ⟨nextConsistent, nextNodes, nextHolds⟩ := consistent.addReference holds added
      rw [List.foldlM_cons, added]
      refine ih nextConsistent nextHolds fun other member => ?_
      rw [nextNodes]
      exact known other (by simp [member])

theorem ofRecords_ok (nodes : List Node) (references : List Reference)
    (distinct : (nodes.map Node.id).Nodup)
    (known : ∀ reference ∈ references, reference.src ∈ nodes.map Node.id ∧
      reference.dst ∈ nodes.map Node.id) :
    ∃ graph, ofRecords nodes references = .ok graph := by
  obtain ⟨bare, added⟩ := consistent_empty.foldlM_addNode_ok nodes distinct
  obtain ⟨consistent, rfl, holds⟩ := foldlM_addNode_empty added
  unfold ofRecords
  rw [added]
  exact consistent.foldlM_addReference_ok holds known

end Graph

end HeapGraph
