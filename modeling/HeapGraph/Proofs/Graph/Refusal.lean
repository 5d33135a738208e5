import HeapGraph.Proofs.Graph.Construction

/-!
What keeps a graph from being built: an object whose id is taken by one before it, or else a
reference with an end that is not there. Of several faults the first one is told, and where there is
none the graph is built.
-/

namespace HeapGraph

def Reference.Known (reference : Reference) (nodes : List Node) : Prop :=
  reference.src ∈ nodes.map Node.id ∧ reference.dst ∈ nodes.map Node.id

/-- The end of a reference that is looked up in vain; the source is looked up first. -/
def Reference.missing (reference : Reference) (nodes : List Node) : String :=
  if reference.src ∈ nodes.map Node.id then reference.dst else reference.src

inductive Refusal (nodes : List Node) (references : List Reference) : GraphError → Prop
  | duplicate {before after : List Node} {node : Node} (split : nodes = before ++ node :: after)
      (distinct : (before.map Node.id).Nodup) (taken : node.id ∈ before.map Node.id) :
      Refusal nodes references (.duplicate node.id)
  | malformed {before after : List Reference} {reference : Reference}
      (distinct : (nodes.map Node.id).Nodup) (split : references = before ++ reference :: after)
      (known : ∀ earlier ∈ before, earlier.Known nodes) (unknown : ¬reference.Known nodes) :
      Refusal nodes references
        (.malformed reference.src reference.dst (reference.missing nodes))

namespace Graph

variable {graph : Graph}

theorem Agrees.mem_ids_iff (agrees : graph.Agrees) {id : String} :
    graph.ids[id]?.isSome = true ↔ id ∈ graph.nodes.map Node.id := by
  rw [← Std.ExtTreeMap.contains_eq_isSome_getElem?, List.mem_map]
  exact agrees.contains_iff

theorem Agrees.addNode_eq_error_iff (agrees : graph.Agrees) {node : Node} {error : GraphError} :
    graph.addNode node = .error error ↔
      node.id ∈ graph.nodes.map Node.id ∧ .duplicate node.id = error := by
  unfold addNode
  rw [← agrees.mem_ids_iff, ← Std.ExtTreeMap.contains_eq_isSome_getElem?]
  cases graph.ids.contains node.id <;> simp

theorem Agrees.resolve_error (agrees : graph.Agrees) (reference : Reference) {id : String}
    (unknown : id ∉ graph.nodes.map Node.id) :
    graph.resolve reference id = .error (.malformed reference.src reference.dst id) := by
  unfold resolve
  rw [← agrees.mem_ids_iff, Option.not_isSome_iff_eq_none] at unknown
  rw [unknown]

theorem Agrees.addReference_eq_error_iff (agrees : graph.Agrees) {reference : Reference}
    {error : GraphError} :
    graph.addReference reference = .error error ↔ ¬reference.Known graph.nodes ∧
      .malformed reference.src reference.dst (reference.missing graph.nodes) = error := by
  unfold addReference Reference.Known Reference.missing
  by_cases srcKnown : reference.src ∈ graph.nodes.map Node.id
  · obtain ⟨src, srcResolved⟩ := agrees.resolve_ok reference srcKnown
    by_cases dstKnown : reference.dst ∈ graph.nodes.map Node.id
    · obtain ⟨dst, dstResolved⟩ := agrees.resolve_ok reference dstKnown
      simp only [srcResolved, dstResolved, srcKnown, dstKnown, and_self, not_true_eq_false,
        false_and, reduceCtorEq]
    · simp only [srcResolved, agrees.resolve_error reference dstKnown, srcKnown, dstKnown,
        and_false, not_false_eq_true, true_and, if_true, Except.error.injEq]
  · simp only [agrees.resolve_error reference srcKnown, srcKnown, false_and, not_false_eq_true,
      true_and, if_false, Except.error.injEq]

theorem Holds.known {references : List Reference} (holds : graph.Holds references)
    {reference : Reference} (given : reference ∈ references) : reference.Known graph.nodes := by
  obtain ⟨edge, member, rfl⟩ := (holds.reference_mem reference).mpr given
  exact ⟨List.mem_map_of_mem (src_mem_nodes member), List.mem_map_of_mem (dst_mem_nodes member)⟩

theorem foldlM_addNode_eq_error_iff {nodes : List Node} {error : GraphError} :
    nodes.foldlM addNode empty = .error error ↔ ∃ before node after,
      nodes = before ++ node :: after ∧ (before.map Node.id).Nodup ∧
        node.id ∈ before.map Node.id ∧ .duplicate node.id = error := by
  rw [foldlM_eq_error_iff]
  constructor
  · rintro ⟨before, node, after, reached, split, added, failed⟩
    obtain ⟨consistent, live, _⟩ := foldlM_addNode_empty added
    have distinct := consistent.nodup_ids
    have taken := consistent.addNode_eq_error_iff.mp failed
    rw [live] at distinct taken
    exact ⟨before, node, after, split, distinct, taken⟩
  · rintro ⟨before, node, after, split, distinct, taken⟩
    obtain ⟨reached, added⟩ := consistent_empty.foldlM_addNode_ok before distinct
    obtain ⟨consistent, live, _⟩ := foldlM_addNode_empty added
    rw [← live] at taken
    exact ⟨before, node, after, reached, split, added, consistent.addNode_eq_error_iff.mpr taken⟩

theorem Consistent.foldlM_addReference_eq_error_iff (consistent : graph.Consistent)
    (holds : graph.Holds []) {references : List Reference} {error : GraphError} :
    references.foldlM Graph.addReference graph = .error error ↔ ∃ before reference after,
      references = before ++ reference :: after ∧ (∀ earlier ∈ before, earlier.Known graph.nodes) ∧
        ¬reference.Known graph.nodes ∧
        .malformed reference.src reference.dst (reference.missing graph.nodes) = error := by
  rw [foldlM_eq_error_iff]
  constructor
  · rintro ⟨before, reference, after, reached, split, added, failed⟩
    obtain ⟨next, live, more⟩ := consistent.foldlM_addReference holds added
    have unknown := next.addReference_eq_error_iff.mp failed
    rw [live] at unknown
    refine ⟨before, reference, after, split, fun earlier member => ?_, unknown⟩
    rw [← live]
    exact more.known (by simpa using member)
  · rintro ⟨before, reference, after, split, known, unknown⟩
    obtain ⟨reached, added⟩ := consistent.foldlM_addReference_ok holds known
    obtain ⟨next, live, _⟩ := consistent.foldlM_addReference holds added
    rw [← live] at unknown
    exact ⟨before, reference, after, reached, split, added,
      next.addReference_eq_error_iff.mpr unknown⟩

theorem ofRecords_eq_error_iff {nodes : List Node} {references : List Reference}
    {error : GraphError} :
    ofRecords nodes references = .error error ↔ Refusal nodes references error := by
  unfold ofRecords
  constructor
  · intro refused
    cases added : nodes.foldlM addNode empty with
    | error failed =>
        rw [added] at refused
        cases refused
        obtain ⟨before, node, after, split, distinct, taken, rfl⟩ :=
          foldlM_addNode_eq_error_iff.mp added
        exact .duplicate split distinct taken
    | ok bare =>
        rw [added] at refused
        obtain ⟨consistent, rfl, holds⟩ := foldlM_addNode_empty added
        obtain ⟨before, reference, after, split, known, unknown, rfl⟩ :=
          (consistent.foldlM_addReference_eq_error_iff holds).mp refused
        exact .malformed consistent.nodup_ids split known unknown
  · intro refusal
    cases refusal with
    | @duplicate before after node split distinct taken =>
        rw [foldlM_addNode_eq_error_iff.mpr ⟨before, node, after, split, distinct, taken, rfl⟩]
    | @malformed before after reference distinct split known unknown =>
        obtain ⟨bare, added⟩ := consistent_empty.foldlM_addNode_ok nodes distinct
        rw [added]
        obtain ⟨consistent, rfl, holds⟩ := foldlM_addNode_empty added
        exact (consistent.foldlM_addReference_eq_error_iff holds).mpr
          ⟨before, reference, after, split, known, unknown, rfl⟩

theorem ofRecords_error {nodes : List Node} {references : List Reference} {error : GraphError}
    (refused : ofRecords nodes references = .error error) :
    (∃ id, error = .duplicate id) ∨ ∃ src dst missing, error = .malformed src dst missing := by
  cases ofRecords_eq_error_iff.mp refused with
  | @duplicate _ _ node => exact .inl ⟨node.id, rfl⟩
  | malformed => exact .inr ⟨_, _, _, rfl⟩

theorem ofRecords_ne_inconsistent (nodes : List Node) (references : List Reference)
    (discord : Discord) : ofRecords nodes references ≠ .error (.inconsistent discord) := by
  intro failed
  rcases ofRecords_error failed with ⟨_, same⟩ | ⟨_, _, _, same⟩ <;> cases same

theorem Holds.reference_edgeAt? {references : List Reference} (holds : graph.Holds references)
    (slot : Nat) : (graph.edgeAt? slot).map Edge.reference = references.eraseDups[slot]? := by
  apply Option.ext
  intro reference
  rw [← List.mk_mem_zipIdx_iff_getElem?, ← holds.entries, Option.map_eq_some_iff, Graph.entries,
    List.mem_map]
  constructor
  · rintro ⟨edge, found, rfl⟩
    have same := (edgeAt?_eq_some.mp found).1
    exact ⟨edge, mem_edges.mpr (by rwa [same]), by rw [same]⟩
  · rintro ⟨edge, member, same⟩
    cases same
    exact ⟨edge, mem_edges.mp member, rfl⟩

/-- Records are refused for the first object whose id is taken, whatever the references are; else
for the first reference with an end that is not among the objects; else they are accepted, and then
the slots hold the first of each kind among the references, in their order and without a gap. -/
theorem ofRecords_decides (nodes : List Node) (references : List Reference) :
    (∀ error, ofRecords nodes references = .error error ↔ Refusal nodes references error) ∧
    ((nodes.map Node.id).Nodup ∧ (∀ reference ∈ references, reference.Known nodes) ↔
      ∃ graph, ofRecords nodes references = .ok graph ∧ graph.nodes = nodes ∧
        graph.edgeSlots.size = references.eraseDups.length ∧
        ∀ slot : Nat, (graph.edgeAt? slot).map Edge.reference = references.eraseDups[slot]?) := by
  refine ⟨fun error => ofRecords_eq_error_iff, ?_, ?_⟩
  · rintro ⟨distinct, known⟩
    obtain ⟨graph, accepted⟩ := ofRecords_ok nodes references distinct known
    obtain ⟨_, live, holds⟩ := ofRecords_holds accepted
    exact ⟨graph, accepted, live, holds.size, holds.reference_edgeAt?⟩
  · rintro ⟨graph, accepted, _⟩
    obtain ⟨consistent, rfl, holds⟩ := ofRecords_holds accepted
    exact ⟨consistent.nodup_ids, fun reference => holds.known⟩

example : ofRecords [⟨"a", "table", "a", false, false, .white, 0⟩]
    [⟨"a", "a", none⟩, ⟨"a", "a", none⟩, ⟨"x", "y", none⟩, ⟨"a", "y", none⟩] =
      .error (.malformed "x" "y" "x") := by
  rfl

end Graph

end HeapGraph
