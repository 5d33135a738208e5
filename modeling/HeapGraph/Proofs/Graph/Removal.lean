import HeapGraph.Proofs.Graph.Invariant

/-!
Removing an object: every reference at it is given up in turn, each with its place in both indices
and its key, and what is left is the graph without that object.
-/

namespace HeapGraph.Graph

theorem detach_of_none {graph : Graph} {slot : Nat} (dead : graph.linkAt? slot = none) :
    graph.detach slot = graph := by
  simp [detach, dead]

theorem nodeAt?_detach (graph : Graph) (slot : Nat) :
    (graph.detach slot).nodeAt? = graph.nodeAt? := by
  unfold detach
  split <;> rfl

theorem nodeSlots_detach (graph : Graph) (slot : Nat) :
    (graph.detach slot).nodeSlots = graph.nodeSlots := by
  unfold detach
  split <;> rfl

theorem edgeSlots_size_detach (graph : Graph) (slot : Nat) :
    (graph.detach slot).edgeSlots.size = graph.edgeSlots.size := by
  unfold detach
  split
  · rfl
  · simp

theorem linkAt?_detach (graph : Graph) (slot other : Nat) :
    (graph.detach slot).linkAt? other = if other = slot then none else graph.linkAt? other := by
  unfold detach
  split
  next dead =>
    by_cases same : other = slot
    · rw [if_pos same, same, dead]
    · rw [if_neg same]
  next link linked =>
    exact join_setIfInBounds_none graph.edgeSlots slot other

theorem links_length_detach {graph : Graph} {slot : Nat} {link : Link}
    (linked : graph.linkAt? slot = some link) :
    graph.links.length = (graph.detach slot).links.length + 1 := by
  have below := linkAt?_lt linked
  have bound : slot < graph.edgeSlots.toList.length := by simpa using below
  have occupied : graph.edgeSlots.toList[slot] = some link := by
    simpa [linkAt?, below] using linked
  have count (slots : List (Option Link)) :
      (slots.filterMap fun slot => slot).length = slots.countP Option.isSome := by
    rw [List.length_filterMap_eq_countP]
  have positive : 0 < graph.edgeSlots.toList.countP Option.isSome :=
    List.countP_pos_iff.mpr ⟨some link, by rw [← occupied]; exact List.getElem_mem _, rfl⟩
  simp only [links, detach, linked, count, Array.toList_setIfInBounds]
  rw [List.countP_set bound, occupied]
  simp only [Option.isSome_some, Option.isSome_none, Bool.false_eq_true, if_true, if_false]
  omega

theorem Files.mem_unfile {graph : Graph} {index : Index} {endpoint : Link → Nat}
    (files : graph.Files index endpoint) {slot : Nat} {link : Link}
    (linked : graph.linkAt? slot = some link) (node other : Nat) :
    other ∈ (index.unfile (endpoint link) slot).bucket node ↔
      ∃ kept, (graph.detach slot).linkAt? other = some kept ∧ endpoint kept = node := by
  rw [Index.bucket_unfile, linkAt?_detach]
  by_cases taken : other = slot
  · subst other
    by_cases same : endpoint link = node
    · simp [same]
    · simp [same, files.mem_bucket, linked]
  · by_cases same : endpoint link = node
    · simp [same, taken, Ne.symm taken, files.mem_bucket]
    · simp [same, taken, files.mem_bucket]

theorem Consistent.detach {graph : Graph} (consistent : graph.Consistent) (slot : Nat) :
    (graph.detach slot).Consistent := by
  cases linked : graph.linkAt? slot with
  | none => rwa [detach_of_none linked]
  | some link =>
      have forward : (graph.detach slot).forward = graph.forward.unfile link.src slot := by
        simp [Graph.detach, linked]
      have reverse : (graph.detach slot).reverse = graph.reverse.unfile link.dst slot := by
        simp [Graph.detach, linked]
      have keys : (graph.detach slot).keys = graph.keys.erase link := by
        simp [Graph.detach, linked]
      have counter : (graph.detach slot).liveEdges = graph.liveEdges - 1 := by
        simp [Graph.detach, linked]
      have ends (other : Nat) (kept : Link)
          (found : (graph.detach slot).linkAt? other = some kept) :
          ((graph.detach slot).nodeAt? kept.src).isSome ∧
            ((graph.detach slot).nodeAt? kept.dst).isSome := by
        rw [linkAt?_detach] at found
        rw [nodeAt?_detach]
        split at found
        · cases found
        · exact consistent.ends other kept found
      have forwardTidy := consistent.forwardTidy.unfile link.src slot
      have reverseTidy := consistent.reverseTidy.unfile link.dst slot
      rw [← forward] at forwardTidy
      rw [← reverse] at reverseTidy
      refine ⟨⟨?_, ends, ?_, ?_, ?_, ?_⟩, forwardTidy, reverseTidy⟩
      · simpa [nodeAt?_detach] using consistent.ids
      · refine Files.of_tidy forwardTidy (fun other kept found => (ends other kept found).1) ?_
        rw [forward]
        exact consistent.forward.mem_unfile linked
      · refine Files.of_tidy reverseTidy (fun other kept found => (ends other kept found).2) ?_
        rw [reverse]
        exact consistent.reverse.mem_unfile linked
      · intro key other
        have alone (kept : Link) (found : graph.linkAt? slot = some kept) : kept = link :=
          Option.some.inj (found.symm.trans linked)
        rw [keys, linkAt?_detach, getElem?_erase_iff consistent.keys linked alone]
        by_cases taken : other = slot <;> simp [taken]
      · have fewer := links_length_detach linked
        have counted := consistent.count
        omega

theorem Consistent.foldl_detach {graph : Graph} (consistent : graph.Consistent) (slots : List Nat) :
    (slots.foldl Graph.detach graph).Consistent := by
  induction slots generalizing graph with
  | nil => exact consistent
  | cons slot slots ih => exact ih (consistent.detach slot)

theorem linkAt?_foldl_detach (slots : List Nat) (graph : Graph) (other : Nat) :
    (slots.foldl Graph.detach graph).linkAt? other =
      if other ∈ slots then none else graph.linkAt? other := by
  induction slots generalizing graph with
  | nil => simp
  | cons slot slots ih =>
      rw [List.foldl_cons, ih, linkAt?_detach]
      by_cases later : other ∈ slots
      · simp [later]
      · simp [later]

theorem nodeSlots_foldl_detach (slots : List Nat) (graph : Graph) :
    (slots.foldl Graph.detach graph).nodeSlots = graph.nodeSlots := by
  induction slots generalizing graph with
  | nil => rfl
  | cons slot slots ih => rw [List.foldl_cons, ih, nodeSlots_detach]

theorem edgeSlots_size_foldl_detach (slots : List Nat) (graph : Graph) :
    (slots.foldl Graph.detach graph).edgeSlots.size = graph.edgeSlots.size := by
  induction slots generalizing graph with
  | nil => rfl
  | cons slot slots ih => rw [List.foldl_cons, ih, edgeSlots_size_detach]

def withoutBuckets (graph : Graph) (node : Nat) : Graph :=
  { graph with
    forward := graph.forward.erase node
    reverse := graph.reverse.erase node }

theorem detach_withoutBuckets (graph : Graph) (node slot : Nat) :
    (graph.withoutBuckets node).detach slot = (graph.detach slot).withoutBuckets node := by
  have same : (graph.withoutBuckets node).linkAt? slot = graph.linkAt? slot := rfl
  unfold detach
  rw [same]
  split
  · rfl
  · simp only [withoutBuckets, Index.unfile_erase]

theorem foldl_detach_withoutBuckets (slots : List Nat) (graph : Graph) (node : Nat) :
    slots.foldl Graph.detach (graph.withoutBuckets node) =
      (slots.foldl Graph.detach graph).withoutBuckets node := by
  induction slots generalizing graph with
  | nil => rfl
  | cons slot slots ih => rw [List.foldl_cons, List.foldl_cons, detach_withoutBuckets, ih]

namespace Consistent

variable {graph : Graph}

theorem mem_incident (consistent : graph.Consistent) (node slot : Nat) :
    slot ∈ graph.incident node ↔
      ∃ link, graph.linkAt? slot = some link ∧ (link.src = node ∨ link.dst = node) := by
  simp only [incident, List.mem_append, Std.ExtTreeSet.mem_toList, consistent.forward.mem_bucket,
    consistent.reverse.mem_bucket]
  constructor
  · rintro (⟨link, linked, ends⟩ | ⟨link, linked, ends⟩)
    · exact ⟨link, linked, Or.inr ends⟩
    · exact ⟨link, linked, Or.inl ends⟩
  · rintro ⟨link, linked, ends | ends⟩
    · exact Or.inr ⟨link, linked, ends⟩
    · exact Or.inl ⟨link, linked, ends⟩

theorem linkAt?_foldl_incident (consistent : graph.Consistent) (node slot : Nat) :
    ((graph.incident node).foldl Graph.detach graph).linkAt? slot =
      (graph.linkAt? slot).filter fun link => link.src != node && link.dst != node := by
  have listed := consistent.mem_incident node slot
  rw [linkAt?_foldl_detach]
  cases linked : graph.linkAt? slot with
  | none => simp
  | some link =>
      simp only [linked, Option.some.injEq, exists_eq_left'] at listed
      by_cases ends : link.src = node ∨ link.dst = node
      · rw [if_pos (listed.mpr ends)]
        rcases ends with ends | ends <;> simp [Option.filter, ends]
      · rw [if_neg (fun member => ends (listed.mp member))]
        simpa [Option.filter] using not_or.mp ends

/-- Once every reference at an object is detached its buckets are gone by themselves, so it makes no
difference that a removal takes them out beforehand. -/
theorem detachAll_eq (consistent : graph.Consistent) (node : Nat) :
    graph.detachAll node = (graph.incident node).foldl Graph.detach graph := by
  have left := consistent.foldl_detach (graph.incident node)
  have unlinked (slot : Nat) (link : Link)
      (linked : ((graph.incident node).foldl Graph.detach graph).linkAt? slot = some link) :
      link.src ≠ node ∧ link.dst ≠ node := by
    rw [consistent.linkAt?_foldl_incident] at linked
    simpa using (Option.filter_eq_some_iff.mp linked).2
  have forward : ((graph.incident node).foldl Graph.detach graph).forward.bucket node = ∅ := by
    apply Std.ExtTreeSet.eq_empty_iff_forall_not_mem.mpr
    intro slot member
    obtain ⟨link, linked, ends⟩ := (left.forward.mem_bucket node slot).mp member
    exact (unlinked slot link linked).1 ends
  have reverse : ((graph.incident node).foldl Graph.detach graph).reverse.bucket node = ∅ := by
    apply Std.ExtTreeSet.eq_empty_iff_forall_not_mem.mpr
    intro slot member
    obtain ⟨link, linked, ends⟩ := (left.reverse.mem_bucket node slot).mp member
    exact (unlinked slot link linked).2 ends
  change (graph.incident node).foldl Graph.detach (graph.withoutBuckets node) = _
  rw [foldl_detach_withoutBuckets]
  simp only [withoutBuckets, left.forwardTidy.erase_of_bucket forward,
    left.reverseTidy.erase_of_bucket reverse]

end Consistent

/-- `left` is what remains of a graph when just the objects that `keep` accepts stay, in their
slots, and the references between them. -/
structure Restriction (graph : Graph) (keep : Node → Bool) (left : Graph) : Prop where
  consistent : left.Consistent
  nodeSlots : left.nodeSlots.size = graph.nodeSlots.size
  edgeSlots : left.edgeSlots.size = graph.edgeSlots.size
  nodeAt? : ∀ slot, left.nodeAt? slot = (graph.nodeAt? slot).filter keep
  edgeAt? : ∀ slot, left.edgeAt? slot =
    (graph.edgeAt? slot).filter fun edge => keep edge.src && keep edge.dst

namespace Restriction

variable {graph middle left : Graph} {keep more : Node → Bool}

theorem refl (consistent : graph.Consistent) : graph.Restriction (fun _ => true) graph := by
  refine ⟨consistent, rfl, rfl, ?_, ?_⟩
  · intro slot
    cases graph.nodeAt? slot <;> rfl
  · intro slot
    cases graph.edgeAt? slot <;> rfl

theorem trans (first : graph.Restriction keep middle) (second : middle.Restriction more left) :
    graph.Restriction (fun node => keep node && more node) left := by
  refine ⟨second.consistent, second.nodeSlots.trans first.nodeSlots,
    second.edgeSlots.trans first.edgeSlots, ?_, ?_⟩
  · intro slot
    rw [second.nodeAt?, first.nodeAt?, Option.filter_filter]
  · intro slot
    rw [second.edgeAt?, first.edgeAt?, Option.filter_filter]
    congr 1
    funext edge
    cases keep edge.src <;> cases keep edge.dst <;> simp

theorem congr (restriction : graph.Restriction keep left)
    (same : ∀ node ∈ graph.nodes, keep node = more node) : graph.Restriction more left := by
  refine ⟨restriction.consistent, restriction.nodeSlots, restriction.edgeSlots, ?_, ?_⟩
  · intro slot
    rw [restriction.nodeAt?]
    cases live : graph.nodeAt? slot with
    | none => rfl
    | some node => simp [Option.filter, same node (mem_nodes.mpr ⟨slot, live⟩)]
  · intro slot
    rw [restriction.edgeAt?]
    cases found : graph.edgeAt? slot with
    | none => rfl
    | some edge =>
        have member : edge ∈ graph.edges :=
          mem_edges.mpr (by rwa [(edgeAt?_eq_some.mp found).1])
        simp [Option.filter, same _ (src_mem_nodes member), same _ (dst_mem_nodes member)]

theorem cons {id : String} {ids : List String}
    (first : graph.Restriction (fun node => node.id != id) middle)
    (rest : middle.Restriction (fun node => !ids.contains node.id) left) :
    graph.Restriction (fun node => !(id :: ids).contains node.id) left := by
  refine (first.trans rest).congr fun node _ => ?_
  rw [List.contains_cons, Bool.not_or]
  rfl

theorem nodes (restriction : graph.Restriction keep left) :
    left.nodes = graph.nodes.filter keep := by
  have read : left.nodeAt? = fun slot => (graph.nodeAt? slot).filter keep :=
    funext restriction.nodeAt?
  rw [nodes_eq, nodes_eq, restriction.nodeSlots, read, filterMap_filter_range]

theorem edges (restriction : graph.Restriction keep left) :
    left.edges = graph.edges.filter fun edge => keep edge.src && keep edge.dst := by
  have read : left.edgeAt? = fun slot =>
      (graph.edgeAt? slot).filter fun edge => keep edge.src && keep edge.dst :=
    funext restriction.edgeAt?
  rw [Graph.edges, Graph.edges, restriction.edgeSlots, read, filterMap_filter_range]

theorem linkAt?_of (restriction : graph.Restriction keep left)
    (other : graph.Restriction keep middle) {slot : Nat} {link : Link}
    (linked : left.linkAt? slot = some link) : middle.linkAt? slot = some link := by
  obtain ⟨edge, found, src, dst, name⟩ :=
    restriction.consistent.edgeAt?_of_linkAt? linked
  rw [restriction.nodeAt?, ← other.nodeAt?] at src dst
  rw [restriction.edgeAt?, ← other.edgeAt?] at found
  exact other.consistent.linkAt?_of_edgeAt? found src dst name

theorem unique (restriction : graph.Restriction keep left)
    (other : graph.Restriction keep middle) : left = middle := by
  refine restriction.consistent.ext other.consistent ?_ ?_
  · apply slots_ext (restriction.nodeSlots.trans other.nodeSlots.symm)
    intro slot
    exact (restriction.nodeAt? slot).trans (other.nodeAt? slot).symm
  · apply slots_ext (restriction.edgeSlots.trans other.edgeSlots.symm)
    intro slot
    apply Option.ext
    intro link
    exact ⟨restriction.linkAt?_of other, other.linkAt?_of restriction⟩

end Restriction

def vacate (graph : Graph) (id : String) (slot : Nat) : Graph :=
  { graph with
    ids := graph.ids.erase id
    nodeSlots := graph.nodeSlots.setIfInBounds slot none }

theorem nodeAt?_vacate (graph : Graph) (id : String) (slot other : Nat) :
    (graph.vacate id slot).nodeAt? other = if other = slot then none else graph.nodeAt? other :=
  join_setIfInBounds_none graph.nodeSlots slot other

theorem Consistent.vacate {graph : Graph} (consistent : graph.Consistent) {slot : Nat} {node : Node}
    (live : graph.nodeAt? slot = some node)
    (bare : ∀ other link, graph.linkAt? other = some link → link.src ≠ slot ∧ link.dst ≠ slot) :
    (graph.vacate node.id slot).Consistent := by
  have ends (other : Nat) (link : Link) (linked : graph.linkAt? other = some link) :
      ((graph.vacate node.id slot).nodeAt? link.src).isSome ∧
        ((graph.vacate node.id slot).nodeAt? link.dst).isSome := by
    obtain ⟨srcOther, dstOther⟩ := bare other link linked
    rw [nodeAt?_vacate, nodeAt?_vacate, if_neg srcOther, if_neg dstOther]
    exact consistent.ends other link linked
  refine ⟨⟨?_, ends, ?_, ?_, consistent.keys, consistent.count⟩, consistent.forwardTidy,
    consistent.reverseTidy⟩
  · intro id other
    change (graph.ids.erase node.id)[id]? = some other ↔ _
    rw [nodeAt?_vacate]
    have alone (key : String) (held : ∃ kept, graph.nodeAt? slot = some kept ∧ kept.id = key) :
        key = node.id := by
      obtain ⟨kept, keptLive, rfl⟩ := held
      rw [Option.some.inj (keptLive.symm.trans live)]
    rw [getElem?_erase_iff consistent.ids ⟨node, live, rfl⟩ alone]
    by_cases taken : other = slot <;> simp [taken]
  · exact Files.of_tidy consistent.forwardTidy (fun other link linked => (ends other link linked).1)
      consistent.forward.mem_bucket
  · exact Files.of_tidy consistent.reverseTidy (fun other link linked => (ends other link linked).2)
      consistent.reverse.mem_bucket

namespace Consistent

variable {graph : Graph}

theorem nodeAt?_vacate_filter (consistent : graph.Consistent) {slot : Nat} {node : Node}
    (live : graph.nodeAt? slot = some node) (other : Nat) :
    (if other = slot then none else graph.nodeAt? other) =
      (graph.nodeAt? other).filter fun kept => kept.id != node.id := by
  by_cases taken : other = slot
  · simp [taken, live, Option.filter]
  · rw [if_neg taken]
    cases found : graph.nodeAt? other with
    | none => rfl
    | some kept =>
        have differ : kept.id ≠ node.id := fun same =>
          taken (consistent.slot_unique found live same)
        simp [Option.filter, differ]

/-- Removing an object that is there succeeds, returns it, and leaves the others with the references
between them. -/
theorem remove (consistent : graph.Consistent) {node : Node} (member : node ∈ graph.nodes) :
    ∃ left, graph.remove node.id = .ok (node, left) ∧
      graph.Restriction (fun kept => kept.id != node.id) left := by
  obtain ⟨slot, live⟩ := mem_nodes.mp member
  have found : graph.ids[node.id]? = some slot := (consistent.ids _ _).mpr ⟨node, live, rfl⟩
  let detached := (graph.incident slot).foldl Graph.detach graph
  have nodeSlots : detached.nodeSlots = graph.nodeSlots := nodeSlots_foldl_detach _ _
  have edgeSlots : detached.edgeSlots.size = graph.edgeSlots.size := edgeSlots_size_foldl_detach _ _
  have nodeAt (other : Nat) : detached.nodeAt? other = graph.nodeAt? other := by
    simp only [Graph.nodeAt?, nodeSlots]
  have linkAt (other : Nat) : detached.linkAt? other =
      (graph.linkAt? other).filter fun link => link.src != slot && link.dst != slot :=
    consistent.linkAt?_foldl_incident slot other
  have left : (detached.vacate node.id slot).Consistent := by
    refine (consistent.foldl_detach (graph.incident slot)).vacate ((nodeAt slot).trans live) ?_
    intro other link linked
    rw [linkAt] at linked
    simpa using (Option.filter_eq_some_iff.mp linked).2
  refine ⟨detached.vacate node.id slot, ?_, left, ?_, edgeSlots, ?_, ?_⟩
  · unfold Graph.remove
    rw [found]
    simp only [consistent.detachAll_eq]
    rw [(nodeAt slot).trans live]
    rfl
  · simp [Graph.vacate, nodeSlots]
  · intro other
    rw [nodeAt?_vacate, nodeAt]
    exact consistent.nodeAt?_vacate_filter live other
  · intro other
    apply Option.ext
    intro edge
    rw [Option.filter_eq_some_iff, edgeAt?_eq_some, edgeAt?_eq_some,
      show (detached.vacate node.id slot).linkAt? other = detached.linkAt? other from rfl, linkAt]
    simp only [nodeAt?_vacate, nodeAt, consistent.nodeAt?_vacate_filter live,
      Option.filter_eq_some_iff, Bool.and_eq_true, bne_iff_ne]
    constructor
    · rintro ⟨same, link, ⟨linked, _, _⟩, ⟨src, srcKept⟩, ⟨dst, dstKept⟩, name⟩
      exact ⟨⟨same, link, linked, src, dst, name⟩, srcKept, dstKept⟩
    · rintro ⟨⟨same, link, linked, src, dst, name⟩, srcKept, dstKept⟩
      have srcOther : link.src ≠ slot := fun taken =>
        srcKept (by rw [taken, live] at src; rw [← Option.some.inj src])
      have dstOther : link.dst ≠ slot := fun taken =>
        dstKept (by rw [taken, live] at dst; rw [← Option.some.inj dst])
      exact ⟨same, link, ⟨linked, srcOther, dstOther⟩, ⟨src, srcKept⟩, ⟨dst, dstKept⟩, name⟩

theorem remove_absent (consistent : graph.Consistent) {id : String}
    (absent : ∀ node ∈ graph.nodes, node.id ≠ id) : graph.remove id = .error (.notFound id) := by
  unfold Graph.remove
  cases found : graph.ids[id]? with
  | none => rfl
  | some slot =>
      obtain ⟨node, live, same⟩ := (consistent.ids id slot).mp found
      exact absurd same (absent node (mem_nodes.mpr ⟨slot, live⟩))

theorem remove_cases (consistent : graph.Consistent) (id : String) :
    (∃ node ∈ graph.nodes, node.id = id ∧ ∃ left, graph.remove id = .ok (node, left) ∧
      graph.Restriction (fun kept => kept.id != id) left) ∨
    ((∀ node ∈ graph.nodes, node.id ≠ id) ∧ graph.remove id = .error (.notFound id)) := by
  by_cases present : ∃ node ∈ graph.nodes, node.id = id
  · obtain ⟨node, member, rfl⟩ := present
    exact Or.inl ⟨node, member, rfl, consistent.remove member⟩
  · have absent (node : Node) (member : node ∈ graph.nodes) : node.id ≠ id := fun same =>
      present ⟨node, member, same⟩
    exact Or.inr ⟨absent, consistent.remove_absent absent⟩

end Consistent

end HeapGraph.Graph
