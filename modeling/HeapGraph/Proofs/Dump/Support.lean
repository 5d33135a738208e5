import HeapGraph.Proofs.Graph.Survival

/-!
What survives a prune can be told from the records of a dump alone, and of these only the ids and flags
of the objects and the ends of what fixed ones refer to matter. The more a dump has of these, and the
fewer of its objects are fixed, the more survives. What does not survive makes no difference to what
does, as long as nothing holds it up.
-/

namespace HeapGraph

namespace Dump

def Refers (dump : Dump) (src dst : String) : Prop :=
  ∃ reference ∈ dump.references,
    reference.src = src ∧ reference.dst = dst ∧ reference.name ≠ some envName

/-- A set of objects that hold each other up: each fixed one refers to one of them. -/
structure Supports (dump : Dump) (kept : Set Node) : Prop where
  listed : ∀ node ∈ kept, node ∈ dump.nodes
  held : ∀ node ∈ kept, node.fixed = true → ∃ target ∈ kept, dump.Refers node.id target.id

theorem Supports.not_mem {dump : Dump} {kept : Set Node} (supports : dump.Supports kept)
    {node : Node} (fixed : node.fixed = true)
    (bare : ∀ target ∈ kept, ¬dump.Refers node.id target.id) : node ∉ kept := by
  intro inside
  obtain ⟨target, targetInside, refers⟩ := supports.held node inside fixed
  exact bare target targetInside refers

/-- The largest set of objects that hold each other up, in the order of their records. -/
structure Survivors (dump : Dump) (kept : List Node) : Prop where
  greatest : IsGreatest {kept | dump.Supports kept} {node | node ∈ kept}
  ordered : kept = dump.nodes.filter (· ∈ kept)

namespace Survivors

variable {dump : Dump} {kept others : List Node}

theorem listed (survivors : dump.Survivors kept) {node : Node} (inside : node ∈ kept) :
    node ∈ dump.nodes :=
  survivors.greatest.1.listed node inside

theorem unique (survivors : dump.Survivors kept) (again : dump.Survivors others) :
    kept = others := by
  have same (node : Node) : node ∈ kept ↔ node ∈ others :=
    Set.ext_iff.mp (survivors.greatest.unique again.greatest) node
  rw [survivors.ordered, again.ordered]
  exact List.filter_congr fun node _ => decide_eq_decide.mpr (by simpa using same node)

end Survivors

/-- The references between two of the objects, each kind of them where it stands first. -/
def between (dump : Dump) (kept : List Node) : List Reference :=
  dump.references.eraseDups.filter fun reference =>
    reference.src ∈ kept.map Node.id ∧ reference.dst ∈ kept.map Node.id

end Dump

namespace Graph

variable {dump : Dump} {built : Graph}

theorem ofDump_refers_iff (accepted : ofDump dump = .ok built) {src dst : Node} :
    built.Refers src dst ↔ src ∈ dump.nodes ∧ dst ∈ dump.nodes ∧ dump.Refers src.id dst.id := by
  obtain ⟨consistent, live, holds⟩ := ofRecords_holds accepted
  rw [← live]
  constructor
  · rintro ⟨edge, member, rfl, rfl, counts⟩
    exact ⟨src_mem_nodes member, dst_mem_nodes member, edge.reference,
      (holds.reference_mem _).mp ⟨edge, member, rfl⟩, rfl, rfl, counts⟩
  · rintro ⟨srcLive, dstLive, reference, given, srcSame, dstSame, counts⟩
    refine holds.refers consistent srcLive dstLive reference.name ?_ counts
    rwa [← srcSame, ← dstSame]

theorem ofDump_supports_iff (accepted : ofDump dump = .ok built) {kept : Set Node} :
    built.Supports kept ↔ dump.Supports kept := by
  obtain ⟨_, live, _⟩ := ofRecords_holds accepted
  constructor
  · rintro ⟨alive, held⟩
    refine ⟨fun node inside => by simpa [live] using alive node inside, ?_⟩
    intro node inside fixed
    obtain ⟨target, targetInside, refers⟩ := held node inside fixed
    exact ⟨target, targetInside, ((ofDump_refers_iff accepted).mp refers).2.2⟩
  · rintro ⟨listed, held⟩
    refine ⟨fun node inside => by simpa [live] using listed node inside, ?_⟩
    intro node inside fixed
    obtain ⟨target, targetInside, refers⟩ := held node inside fixed
    exact ⟨target, targetInside, (ofDump_refers_iff accepted).mpr
      ⟨listed node inside, listed target targetInside, refers⟩⟩

theorem ofDump_nodup (accepted : ofDump dump = .ok built) : (dump.nodes.map Node.id).Nodup := by
  obtain ⟨consistent, live, _⟩ := ofRecords_holds accepted
  rw [← live]
  exact consistent.nodup_ids

/-- The prune of a dump leaves the greatest set of its objects that hold each other up. -/
theorem ofDump_prune (accepted : ofDump dump = .ok built) :
    ∃ report left, built.prune = .ok (report, left) ∧
      IsGreatest {kept | dump.Supports kept} {node | node ∈ left.nodes} ∧
      built.Restriction (fun node => decide (node ∈ left.nodes)) left := by
  have consistent := (ofRecords_holds accepted).1
  obtain ⟨report, peeled, left, pruned, peeling, leafless, _⟩ := consistent.prune
  refine ⟨report, left, pruned, ?_, peeling.restriction_kept consistent⟩
  have greatest := peeling.greatest consistent leafless
  simpa only [ofDump_supports_iff accepted] using greatest

theorem ofDump_survivors (accepted : ofDump dump = .ok built) :
    ∃ report left, built.prune = .ok (report, left) ∧ dump.Survivors left.nodes ∧
      left.edges.map Edge.reference = dump.between left.nodes := by
  obtain ⟨consistent, live, holds⟩ := ofRecords_holds accepted
  obtain ⟨report, left, pruned, greatest, restriction⟩ := ofDump_prune accepted
  have nodes := restriction.nodes
  rw [live] at nodes
  have survivors : dump.Survivors left.nodes := ⟨greatest, nodes⟩
  have keeps (node : Node) (member : node ∈ built.nodes) :
      node ∈ left.nodes ↔ node.id ∈ left.nodes.map Node.id := by
    constructor
    · exact fun inside => List.mem_map_of_mem inside
    · intro named
      obtain ⟨twin, inside, same⟩ := List.mem_map.mp named
      rwa [← consistent.node_unique (live ▸ survivors.listed inside) member same]
  refine ⟨report, left, pruned, survivors, ?_⟩
  rw [Dump.between, ← holds.references, List.filter_map, restriction.edges]
  congr 1
  refine List.filter_congr fun edge member => ?_
  rw [Bool.eq_iff_iff]
  simp only [Edge.reference, Function.comp_apply, Bool.and_eq_true, decide_eq_true_eq,
    keeps edge.src (src_mem_nodes member), keeps edge.dst (dst_mem_nodes member)]
  exact decide_eq_true_iff.symm

end Graph

section Alike

def Node.painted (kept : List Node) (paint : Node → Color) (node : Node) : Node :=
  if node ∈ kept then node else { node with color := paint node }

variable {kept : List Node} {paint : Node → Color}

@[simp] theorem Node.painted_id (node : Node) : (node.painted kept paint).id = node.id := by
  unfold painted
  split <;> rfl

@[simp] theorem Node.painted_fixed (node : Node) :
    (node.painted kept paint).fixed = node.fixed := by
  unfold painted
  split <;> rfl

theorem Node.painted_of_mem {node : Node} (inside : node ∈ kept) :
    node.painted kept paint = node :=
  if_pos inside

namespace Dump

/-- Another dump that is the same as far as the kept objects go. The others may have whatever color,
and whatever references to them and from them, but for new ones that might hold them up. -/
structure AlikeOn (dump : Dump) (kept : List Node) (other : Dump) : Prop where
  nodes : ∃ paint, other.nodes = dump.nodes.map (Node.painted kept paint)
  between : other.between kept = dump.between kept
  refers : ∀ node ∈ dump.nodes, node ∉ kept → ∀ dst, other.Refers node.id dst →
    dump.Refers node.id dst

variable {dump other : Dump}

theorem refers_of_between {src dst : Node} (between : other.between kept = dump.between kept)
    (srcKept : src ∈ kept) (dstKept : dst ∈ kept) (refers : dump.Refers src.id dst.id) :
    other.Refers src.id dst.id := by
  obtain ⟨reference, given, srcSame, dstSame, counts⟩ := refers
  have listed : reference ∈ dump.between kept := by
    refine List.mem_filter.mpr ⟨List.mem_eraseDups.mpr given, ?_⟩
    rw [decide_eq_true_eq, srcSame, dstSame]
    exact ⟨List.mem_map_of_mem srcKept, List.mem_map_of_mem dstKept⟩
  rw [← between] at listed
  exact ⟨reference, List.mem_eraseDups.mp (List.mem_filter.mp listed).1, srcSame, dstSame, counts⟩

namespace AlikeOn

theorem ids (alike : dump.AlikeOn kept other) :
    other.nodes.map Node.id = dump.nodes.map Node.id := by
  obtain ⟨paint, nodes⟩ := alike.nodes
  rw [nodes, List.map_map]
  exact List.map_congr_left fun node _ => node.painted_id

theorem greatest (alike : dump.AlikeOn kept other)
    (greatest : IsGreatest {kept | dump.Supports kept} {node | node ∈ kept}) :
    IsGreatest {kept | other.Supports kept} {node | node ∈ kept} := by
  obtain ⟨supports, most⟩ := greatest
  obtain ⟨paint, nodes⟩ := alike.nodes
  constructor
  · constructor
    · intro node inside
      rw [nodes]
      exact List.mem_map.mpr ⟨node, supports.listed node inside, Node.painted_of_mem inside⟩
    · intro node inside fixed
      obtain ⟨target, targetInside, refers⟩ := supports.held node inside fixed
      exact ⟨target, targetInside, refers_of_between alike.between inside targetInside refers⟩
  · intro more moreSupports
    have original (other : Node) (member : other ∈ more) :
        ∃ node ∈ dump.nodes, node.painted kept paint = other := by
      have listed := moreSupports.listed other member
      rw [nodes] at listed
      exact List.mem_map.mp listed
    -- In its old colors, what holds itself up there does so here together with what is kept.
    have joint : dump.Supports
        {node | node ∈ dump.nodes ∧ (node ∈ kept ∨ node.painted kept paint ∈ more)} := by
      refine ⟨fun node member => member.1, ?_⟩
      rintro node ⟨member, either⟩ fixed
      by_cases inside : node ∈ kept
      · obtain ⟨target, targetInside, refers⟩ := supports.held node inside fixed
        exact ⟨target, ⟨supports.listed target targetInside, .inl targetInside⟩, refers⟩
      · obtain ⟨target, targetInside, refers⟩ := moreSupports.held _
          (either.resolve_left inside) (by rwa [Node.painted_fixed])
        obtain ⟨twin, twinMember, rfl⟩ := original target targetInside
        rw [Node.painted_id, Node.painted_id] at refers
        exact ⟨twin, ⟨twinMember, .inr targetInside⟩, alike.refers node member inside _ refers⟩
    intro other member
    obtain ⟨node, listed, rfl⟩ := original other member
    have inside : node ∈ kept := most joint ⟨listed, .inr member⟩
    rwa [Node.painted_of_mem inside]

/-- What survives does not change with the color of what does not, and not with the references
there. -/
theorem survivors (alike : dump.AlikeOn kept other) (distinct : (dump.nodes.map Node.id).Nodup)
    (survivors : dump.Survivors kept) : other.Survivors kept := by
  refine ⟨alike.greatest survivors.greatest, ?_⟩
  obtain ⟨paint, nodes⟩ := alike.nodes
  have painted (node : Node) (member : node ∈ dump.nodes) :
      node ∈ kept ↔ node.painted kept paint ∈ kept := by
    constructor
    · intro inside
      rwa [Node.painted_of_mem inside]
    · intro inside
      have unpainted := List.inj_on_of_nodup_map distinct (survivors.listed inside) member
        node.painted_id
      rwa [unpainted] at inside
  calc kept = kept.map (Node.painted kept paint) :=
        ((List.map_congr_left fun node inside => Node.painted_of_mem inside).trans
          (List.map_id kept)).symm
    _ = (dump.nodes.filter (· ∈ kept)).map (Node.painted kept paint) := by
        rw [← survivors.ordered]
    _ = (dump.nodes.map (Node.painted kept paint)).filter (· ∈ kept) := by
        rw [List.filter_map]
        congr 1
        exact List.filter_congr fun node member => decide_eq_decide.mpr (painted node member)
    _ = other.nodes.filter (· ∈ kept) := by rw [nodes]

end AlikeOn

end Dump

end Alike

namespace Dump

/-- The other dump has all objects of this one, none of them fixed that is not fixed here, and from
those that are fixed there all that they refer to here. -/
structure Within (dump more : Dump) : Prop where
  listed : ∀ node ∈ dump.nodes, ∃ other ∈ more.nodes, other.id = node.id
  fixed : ∀ node ∈ dump.nodes, ∀ other ∈ more.nodes, other.id = node.id → other.fixed = true →
    node.fixed = true
  refers : ∀ other ∈ more.nodes, other.fixed = true → ∀ dst, dump.Refers other.id dst →
    more.Refers other.id dst

theorem Within.supports {dump more : Dump} (within : dump.Within more) {kept : Set Node}
    (supports : dump.Supports kept) :
    more.Supports {other | other ∈ more.nodes ∧ ∃ node ∈ kept, node.id = other.id} := by
  refine ⟨fun other member => member.1, ?_⟩
  rintro other ⟨member, node, inside, same⟩ fixed
  have nodeFixed := within.fixed node (supports.listed node inside) other member same.symm fixed
  obtain ⟨target, targetInside, refers⟩ := supports.held node inside nodeFixed
  obtain ⟨twin, twinMember, twinSame⟩ := within.listed target (supports.listed target targetInside)
  refine ⟨twin, ⟨twinMember, target, targetInside, twinSame.symm⟩, ?_⟩
  rw [twinSame]
  rw [same] at refers
  exact within.refers other member fixed target.id refers

theorem Supports.ids_subset {dump more : Dump} {nodes others : List Node}
    (supports : dump.Supports {node | node ∈ nodes})
    (greatest : IsGreatest {kept | more.Supports kept} {other | other ∈ others})
    (within : dump.Within more) : nodes.map Node.id ⊆ others.map Node.id := by
  intro id listed
  obtain ⟨node, member, rfl⟩ := List.mem_map.mp listed
  obtain ⟨other, otherMember, same⟩ := within.listed node (supports.listed node member)
  rw [← same]
  exact List.mem_map_of_mem
    (greatest.2 (within.supports supports) ⟨otherMember, node, member, same.symm⟩)

def flags (dump : Dump) : Set (String × Bool) :=
  {entry | ∃ node ∈ dump.nodes, (node.id, node.fixed) = entry}

def holds (dump : Dump) : Set (String × String) :=
  {ends | (ends.1, true) ∈ dump.flags ∧ dump.Refers ends.1 ends.2}

theorem Within.of_same {dump more : Dump} (unique : (dump.nodes.map Node.id).Nodup)
    (flags : dump.flags = more.flags) (holds : dump.holds = more.holds) : dump.Within more := by
  constructor
  · intro node member
    have listed : (node.id, node.fixed) ∈ more.flags := flags ▸ ⟨node, member, rfl⟩
    obtain ⟨other, otherMember, same⟩ := listed
    exact ⟨other, otherMember, congrArg Prod.fst same⟩
  · intro node member other otherMember same fixed
    have listed : (other.id, other.fixed) ∈ dump.flags := flags ▸ ⟨other, otherMember, rfl⟩
    obtain ⟨found, foundMember, equal⟩ := listed
    obtain ⟨foundSame, foundFixed⟩ := Prod.mk.inj equal
    rw [← List.inj_on_of_nodup_map unique foundMember member (foundSame.trans same), foundFixed,
      fixed]
  · intro other member fixed dst refers
    have flag : (other.id, true) ∈ dump.flags := by
      rw [flags, ← fixed]
      exact ⟨other, member, rfl⟩
    have ends : (other.id, dst) ∈ more.holds := holds ▸ ⟨flag, refers⟩
    exact ends.2

end Dump

/-- Where objects and references are added and fixed objects set free, whatever survived the prune
survives it still. So what survives depends on nothing but which ids there are, which of them are
fixed, and to which ids those refer by another name than `env`. -/
theorem survivors_mono {dump more : Dump} {built another : Graph}
    (accepted : Graph.ofDump dump = .ok built) (alike : Graph.ofDump more = .ok another) :
    ∃ report left otherReport otherLeft, built.prune = .ok (report, left) ∧
      another.prune = .ok (otherReport, otherLeft) ∧
      (dump.Within more → left.nodes.map Node.id ⊆ otherLeft.nodes.map Node.id) ∧
      (dump.flags = more.flags → dump.holds = more.holds →
        ∀ id, id ∈ left.nodes.map Node.id ↔ id ∈ otherLeft.nodes.map Node.id) := by
  obtain ⟨report, left, pruned, greatest, _⟩ := Graph.ofDump_prune accepted
  obtain ⟨otherReport, otherLeft, otherPruned, otherGreatest, _⟩ := Graph.ofDump_prune alike
  refine ⟨report, left, otherReport, otherLeft, pruned, otherPruned,
    greatest.1.ids_subset otherGreatest, fun flags holds id => ⟨?_, ?_⟩⟩
  · exact fun listed => greatest.1.ids_subset otherGreatest
      (Dump.Within.of_same (Graph.ofDump_nodup accepted) flags holds) listed
  · exact fun listed => otherGreatest.1.ids_subset greatest
      (Dump.Within.of_same (Graph.ofDump_nodup alike) flags.symm holds.symm) listed

def heldDump : Dump :=
  ⟨[Graph.exampleNode "a" true, Graph.exampleNode "b" true, Graph.exampleNode "c" false],
    [⟨"a", "b", none⟩, ⟨"b", "c", some "k"⟩, ⟨"c", "a", some "x"⟩]⟩

def heldDumpAlike : Dump :=
  ⟨[⟨"c", "function", "", false, true, .gray, 1⟩, Graph.exampleNode "b" true,
      Graph.exampleNode "a" true],
    [⟨"b", "c", none⟩, ⟨"a", "a", some "env"⟩, ⟨"a", "b", some "k"⟩, ⟨"a", "b", some "k"⟩]⟩

theorem survivors_mono_alike :
    heldDump.flags = heldDumpAlike.flags ∧ heldDump.holds = heldDumpAlike.holds ∧
      heldDump.Within heldDumpAlike ∧
      ∃ built another report left otherReport otherLeft,
        Graph.ofDump heldDump = .ok built ∧ Graph.ofDump heldDumpAlike = .ok another ∧
        built.prune = .ok (report, left) ∧ another.prune = .ok (otherReport, otherLeft) ∧
        left.nodes.map Node.id ⊆ otherLeft.nodes.map Node.id ∧
        ∀ id, id ∈ left.nodes.map Node.id ↔ id ∈ otherLeft.nodes.map Node.id := by
  have flags : heldDump.flags = heldDumpAlike.flags := by
    ext ⟨id, fixed⟩
    simp only [Dump.flags, heldDump, heldDumpAlike, Graph.exampleNode, Set.mem_ofPred_eq,
      List.exists_mem_cons_iff, List.not_mem_nil, Prod.mk.injEq]
    grind
  have holds : heldDump.holds = heldDumpAlike.holds := by
    ext ⟨src, dst⟩
    rw [Dump.holds, Dump.holds, ← flags]
    simp only [Dump.flags, Dump.Refers, heldDump, heldDumpAlike, Graph.exampleNode, envName,
      Set.mem_ofPred_eq, List.exists_mem_cons_iff, List.not_mem_nil, Prod.mk.injEq]
    grind
  obtain ⟨built, accepted⟩ : ∃ built, Graph.ofDump heldDump = .ok built :=
    Graph.ofRecords_ok heldDump.nodes heldDump.references (by decide) (by decide)
  obtain ⟨another, alike⟩ : ∃ another, Graph.ofDump heldDumpAlike = .ok another :=
    Graph.ofRecords_ok heldDumpAlike.nodes heldDumpAlike.references (by decide) (by decide)
  obtain ⟨report, left, otherReport, otherLeft, pruned, otherPruned, mono, same⟩ :=
    survivors_mono accepted alike
  have within : heldDump.Within heldDumpAlike :=
    Dump.Within.of_same (Graph.ofDump_nodup accepted) flags holds
  exact ⟨flags, holds, within, built, another, report, left, otherReport, otherLeft, accepted, alike,
    pruned, otherPruned, mono within, same flags holds⟩

end HeapGraph
