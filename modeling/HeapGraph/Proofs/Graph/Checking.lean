import HeapGraph.Proofs.Graph.Views

/-!
The check of a graph: what each part of it asks, and that it finds no fault just when the parts of
the graph agree. The check compares no sets. It follows the entries in one direction only and then
compares numbers, and the numbers leave no room for any entry that would be wrong the other way.
-/

namespace HeapGraph.Graph

structure Listing (graph : Graph) where
  ids : List (String × Nat)
  forward : List (Nat × Bucket)
  reverse : List (Nat × Bucket)
  ids_perm : ids.Perm graph.ids.toList
  forward_perm : forward.Perm graph.forward.toList
  reverse_perm : reverse.Perm graph.reverse.toList

def Listing.sorted (graph : Graph) : graph.Listing :=
  ⟨graph.ids.toList, graph.forward.toList, graph.reverse.toList, .refl _, .refl _, .refl _⟩

def idDiscordIn? (graph : Graph) (ids : List (String × Nat)) : Option Discord :=
  if graph.nodes.length != graph.ids.size then
    some (.idCount graph.nodes.length graph.ids.size)
  else ids.findSome? fun entry =>
    if (graph.nodeAt? entry.2).any (·.id = entry.1) then none else some (.foreignSlot entry.1)

def indexDiscordIn? (graph : Graph) (name : String) (buckets : List (Nat × Bucket))
    (endpoint : Link → Nat) : Option Discord :=
  (buckets.findSome? fun entry => graph.bucketDiscord? name endpoint entry.1 entry.2).or
    (let entries := buckets.foldl (fun count entry => count + entry.2.size) 0
     if entries != graph.links.length then some (.entryCount name entries graph.links.length)
     else none)

/-- The disagreement that is met first when the tables are gone through in the order of the
listing. -/
def discordIn? (graph : Graph) (listing : graph.Listing) : Option Discord :=
  (graph.idDiscordIn? listing.ids).or
    (graph.edgeDiscord?.or
      (graph.countDiscord?.or
        ((graph.indexDiscordIn? "forward" listing.forward Link.src).or
          (graph.indexDiscordIn? "reverse" listing.reverse Link.dst))))

def checkIn (graph : Graph) (listing : graph.Listing) : Except GraphError Unit :=
  match graph.discordIn? listing with
  | none => .ok ()
  | some discord => .error (.inconsistent discord)

theorem checkIn_sorted (graph : Graph) : graph.checkIn (.sorted graph) = graph.check :=
  rfl

theorem idDiscordIn?_eq_none_iff {graph : Graph} {ids : List (String × Nat)}
    (listed : ids.Perm graph.ids.toList) :
    graph.idDiscordIn? ids = none ↔ graph.nodes.length = graph.ids.size ∧
      ∀ (id : String) (slot : Nat), graph.ids[id]? = some slot →
        ∃ node, graph.nodeAt? slot = some node ∧ node.id = id := by
  unfold idDiscordIn?
  by_cases counted : graph.nodes.length = graph.ids.size
  · simp only [counted, bne_self_eq_false, Bool.false_eq_true, if_false, true_and,
      List.findSome?_eq_none_iff, listed.mem_iff, Prod.forall,
      Std.ExtTreeMap.mem_toList_iff_getElem?_eq_some, ite_eq_left_iff, reduceCtorEq, imp_false,
      Decidable.not_not, Option.any_eq_true, decide_eq_true_eq]
  · simp [counted]

theorem linkDiscord?_eq_none_iff (graph : Graph) (slot : Nat) (link : Link) :
    graph.linkDiscord? slot link = none ↔
      ((graph.nodeAt? link.src).isSome ∧ (graph.nodeAt? link.dst).isSome) ∧
        slot ∈ graph.forward.bucket link.src ∧ slot ∈ graph.reverse.bucket link.dst ∧
        graph.keys[link]? = some slot := by
  unfold linkDiscord?
  rw [Std.ExtTreeSet.mem_iff_contains, Std.ExtTreeSet.mem_iff_contains]
  cases graph.nodeAt? link.src with
  | none => simp
  | some src =>
      cases graph.nodeAt? link.dst with
      | none => simp
      | some dst =>
          cases (graph.forward.bucket link.src).contains slot with
          | false => simp
          | true =>
              cases (graph.reverse.bucket link.dst).contains slot with
              | false => simp
              | true => simp

theorem edgeDiscord?_eq_none_iff (graph : Graph) :
    graph.edgeDiscord? = none ↔
      ∀ slot link, graph.linkAt? slot = some link → graph.linkDiscord? slot link = none := by
  unfold edgeDiscord? slotDiscord?
  rw [List.findSome?_eq_none_iff]
  constructor
  · intro clean slot link linked
    have found := clean slot (List.mem_range.mpr (linkAt?_lt linked))
    rwa [linked] at found
  · intro clean slot _
    cases linked : graph.linkAt? slot with
    | none => rfl
    | some link => exact clean slot link linked

theorem countDiscord?_eq_none_iff (graph : Graph) :
    graph.countDiscord? = none ↔
      graph.links.length = graph.liveEdges ∧ graph.links.length = graph.keys.size := by
  unfold countDiscord?
  by_cases counter : graph.links.length = graph.liveEdges
  · by_cases keyed : graph.links.length = graph.keys.size
    · simp [← counter, ← keyed]
    · simp [← counter, keyed]
  · simp [counter]

theorem bucketDiscord?_eq_none_iff (graph : Graph) (name : String) (endpoint : Link → Nat)
    (node : Nat) (bucket : Bucket) :
    graph.bucketDiscord? name endpoint node bucket = none ↔ (graph.nodeAt? node).isSome ∧
      ∀ slot ∈ bucket, ∃ link, graph.linkAt? slot = some link ∧ endpoint link = node := by
  unfold bucketDiscord?
  cases graph.nodeAt? node with
  | none => simp
  | some owner =>
      simp only [Option.isNone_some, Bool.false_eq_true, if_false, Option.isSome_some, true_and,
        List.findSome?_eq_none_iff, Std.ExtTreeSet.mem_toList]
      refine forall_congr' fun slot => imp_congr_right fun _ => ?_
      cases graph.linkAt? slot with
      | none => simp
      | some link => simp

def filedSlots (index : Index) : List Nat :=
  index.toList.flatMap fun entry => entry.2.toList

theorem foldl_bucket_size (entries : List (Nat × Bucket)) (count : Nat) :
    entries.foldl (fun count entry => count + entry.2.size) count =
      count + (entries.flatMap fun entry => entry.2.toList).length := by
  induction entries generalizing count with
  | nil => simp
  | cons entry entries ih =>
      rw [List.foldl_cons, ih, List.flatMap_cons, List.length_append, Std.ExtTreeSet.length_toList]
      omega

theorem indexDiscordIn?_eq_none_iff (graph : Graph) (name : String) {index : Index}
    {buckets : List (Nat × Bucket)} (listed : buckets.Perm index.toList) (endpoint : Link → Nat) :
    graph.indexDiscordIn? name buckets endpoint = none ↔
      (∀ (node : Nat) (bucket : Bucket), index[node]? = some bucket →
        (graph.nodeAt? node).isSome ∧
          ∀ slot ∈ bucket, ∃ link, graph.linkAt? slot = some link ∧ endpoint link = node) ∧
        (filedSlots index).length = graph.links.length := by
  unfold indexDiscordIn?
  rw [Option.or_eq_none_iff, List.findSome?_eq_none_iff, foldl_bucket_size,
    (listed.flatMap_right _).length_eq]
  refine and_congr ?_ ?_
  · simp only [listed.mem_iff, Prod.forall, Std.ExtTreeMap.mem_toList_iff_getElem?_eq_some,
      bucketDiscord?_eq_none_iff]
  · simp [filedSlots]

theorem mem_filedSlots (index : Index) (slot : Nat) :
    slot ∈ filedSlots index ↔ ∃ node, slot ∈ index.bucket node := by
  unfold filedSlots Index.bucket
  simp only [List.mem_flatMap, Prod.exists, Std.ExtTreeMap.mem_toList_iff_getElem?_eq_some,
    Std.ExtTreeSet.mem_toList]
  constructor
  · rintro ⟨node, bucket, found, member⟩
    exact ⟨node, by simpa [found] using member⟩
  · rintro ⟨node, member⟩
    cases found : index[node]? with
    | none => simp [found] at member
    | some bucket => exact ⟨node, bucket, found, by simpa [found] using member⟩

theorem nodup_filedSlots {index : Index}
    (apart : ∀ first second slot, slot ∈ index.bucket first → slot ∈ index.bucket second →
      first = second) : (filedSlots index).Nodup := by
  refine List.nodup_flatMap.mpr ⟨fun entry _ => ?_, ?_⟩
  · exact (Std.ExtTreeSet.ordered_toList (t := entry.2)).imp fun less same => by simp [same] at less
  · refine Std.ExtTreeMap.distinct_keys_toList.imp_of_mem ?_
    intro left right leftMember rightMember differ slot leftFiled rightFiled
    rw [Std.ExtTreeSet.mem_toList] at leftFiled rightFiled
    have leftBucket : slot ∈ index.bucket left.1 := by
      simpa [Index.bucket, Std.ExtTreeMap.mem_toList_iff_getElem?_eq_some.mp leftMember]
        using leftFiled
    have rightBucket : slot ∈ index.bucket right.1 := by
      simpa [Index.bucket, Std.ExtTreeMap.mem_toList_iff_getElem?_eq_some.mp rightMember]
        using rightFiled
    exact differ (by rw [apart _ _ slot leftBucket rightBucket, Std.ReflOrd.compare_self])

def liveSlots (graph : Graph) : List Nat :=
  (List.range graph.edgeSlots.size).filter fun slot => (graph.linkAt? slot).isSome

theorem mem_liveSlots (graph : Graph) (slot : Nat) :
    slot ∈ graph.liveSlots ↔ ∃ link, graph.linkAt? slot = some link := by
  rw [liveSlots, List.mem_filter, List.mem_range, Option.isSome_iff_exists]
  constructor
  · exact And.right
  · rintro ⟨link, linked⟩
    exact ⟨linkAt?_lt linked, link, linked⟩

theorem links_length (graph : Graph) : graph.links.length = graph.liveSlots.length := by
  rw [links_eq, List.length_filterMap_eq_countP, List.countP_eq_length_filter, liveSlots]

theorem Files.filedSlots_length {graph : Graph} {index : Index} {endpoint : Link → Nat}
    (files : graph.Files index endpoint) : (filedSlots index).length = graph.links.length := by
  have apart (first second slot : Nat) (left : slot ∈ index.bucket first)
      (right : slot ∈ index.bucket second) : first = second := by
    obtain ⟨link, linked, leftEnd⟩ := (files.mem_bucket first slot).mp left
    obtain ⟨kept, keptLinked, rightEnd⟩ := (files.mem_bucket second slot).mp right
    rw [linked] at keptLinked
    rw [← leftEnd, ← rightEnd, Option.some.inj keptLinked]
  have unique : graph.liveSlots.Nodup := List.nodup_range.filter _
  have listed : (filedSlots index).Perm graph.liveSlots := by
    refine (List.perm_ext_iff_of_nodup (nodup_filedSlots apart) unique).mpr fun slot => ?_
    rw [mem_filedSlots, mem_liveSlots]
    constructor
    · rintro ⟨node, member⟩
      obtain ⟨link, linked, _⟩ := (files.mem_bucket node slot).mp member
      exact ⟨link, linked⟩
    · rintro ⟨link, linked⟩
      exact ⟨endpoint link, (files.mem_bucket _ slot).mpr ⟨link, linked, rfl⟩⟩
  rw [links_length, listed.length_eq]

theorem Files.indexDiscordIn? {graph : Graph} {index : Index} {endpoint : Link → Nat}
    (files : graph.Files index endpoint) {buckets : List (Nat × Bucket)}
    (listed : buckets.Perm index.toList) (name : String) :
    graph.indexDiscordIn? name buckets endpoint = none := by
  refine (indexDiscordIn?_eq_none_iff graph name listed endpoint).mpr
    ⟨?_, files.filedSlots_length⟩
  intro node bucket found
  refine ⟨files.owned node ?_, fun slot member => (files.mem_bucket node slot).mp ?_⟩
  · rw [Std.ExtTreeMap.mem_iff_isSome_getElem?, found]
    rfl
  · simpa [Index.bucket, found] using member

/-- That every reference is in the bucket of its endpoint is asked before the buckets are looked at,
so these need only be found to hold nothing else. -/
theorem Files.of_indexDiscordIn? {graph : Graph} {index : Index} {endpoint : Link → Nat}
    {buckets : List (Nat × Bucket)} (listed : buckets.Perm index.toList) {name : String}
    (clean : graph.indexDiscordIn? name buckets endpoint = none)
    (filed : ∀ slot link, graph.linkAt? slot = some link → slot ∈ index.bucket (endpoint link)) :
    graph.Files index endpoint := by
  obtain ⟨sound, _⟩ := (indexDiscordIn?_eq_none_iff graph name listed endpoint).mp clean
  constructor
  · intro node member
    rw [Std.ExtTreeMap.mem_iff_isSome_getElem?, Option.isSome_iff_exists] at member
    obtain ⟨bucket, found⟩ := member
    exact (sound node bucket found).1
  · intro node slot
    constructor
    · intro member
      cases found : index[node]? with
      | none => simp [Index.bucket, found] at member
      | some bucket =>
          have inside : slot ∈ bucket := by simpa [Index.bucket, found] using member
          exact (sound node bucket found).2 slot inside
    · rintro ⟨link, linked, rfl⟩
      exact filed slot link linked

theorem Agrees.keys_size {graph : Graph} (agrees : graph.Agrees) :
    graph.keys.size = graph.links.length := by
  refine size_of_getElem?_iff (fun link => link) fun link slot => ?_
  rw [agrees.keys, exists_eq_right]
  rfl

theorem Agrees.discordIn? {graph : Graph} (agrees : graph.Agrees) (listing : graph.Listing) :
    graph.discordIn? listing = none := by
  unfold Graph.discordIn?
  simp only [Option.or_eq_none_iff]
  refine ⟨?_, ?_, ?_, agrees.forward.indexDiscordIn? listing.forward_perm _,
    agrees.reverse.indexDiscordIn? listing.reverse_perm _⟩
  · refine (idDiscordIn?_eq_none_iff listing.ids_perm).mpr ⟨agrees.nodeCount_eq.symm, ?_⟩
    exact fun id slot found => (agrees.ids id slot).mp found
  · refine (edgeDiscord?_eq_none_iff graph).mpr fun slot link linked => ?_
    exact (linkDiscord?_eq_none_iff graph slot link).mpr ⟨agrees.ends slot link linked,
      (agrees.forward.mem_bucket _ slot).mpr ⟨link, linked, rfl⟩,
      (agrees.reverse.mem_bucket _ slot).mpr ⟨link, linked, rfl⟩,
      (agrees.keys link slot).mpr linked⟩
  · exact (countDiscord?_eq_none_iff graph).mpr ⟨agrees.count.symm, agrees.keys_size.symm⟩

theorem Agrees.of_discordIn? {graph : Graph} {listing : graph.Listing}
    (clean : graph.discordIn? listing = none) : graph.Agrees := by
  unfold Graph.discordIn? at clean
  simp only [Option.or_eq_none_iff] at clean
  obtain ⟨idsClean, edgesClean, countClean, forwardClean, reverseClean⟩ := clean
  obtain ⟨nodeCount, leads⟩ := (idDiscordIn?_eq_none_iff listing.ids_perm).mp idsClean
  obtain ⟨liveCount, keyCount⟩ := (countDiscord?_eq_none_iff graph).mp countClean
  have linked (slot : Nat) (link : Link) (found : graph.linkAt? slot = some link) :=
    (linkDiscord?_eq_none_iff graph slot link).mp
      ((edgeDiscord?_eq_none_iff graph).mp edgesClean slot link found)
  refine ⟨?_, fun slot link found => (linked slot link found).1, ?_, ?_, ?_, liveCount.symm⟩
  · exact getElem?_iff_of_leads Node.id nodeCount.symm leads
  · exact Files.of_indexDiscordIn? listing.forward_perm forwardClean
      fun slot link found => (linked slot link found).2.1
  · exact Files.of_indexDiscordIn? listing.reverse_perm reverseClean
      fun slot link found => (linked slot link found).2.2.1
  · intro link slot
    have lists := getElem?_iff_of_lists (fun link => link) keyCount.symm
      (fun slot link found => (linked slot link found).2.2.2) link slot
    rw [lists, exists_eq_right]
    rfl

theorem checkIn_eq_ok_iff (graph : Graph) (listing : graph.Listing) :
    graph.checkIn listing = .ok () ↔ graph.Agrees := by
  unfold checkIn
  constructor
  · intro passed
    cases found : graph.discordIn? listing with
    | none => exact Agrees.of_discordIn? found
    | some discord =>
        rw [found] at passed
        cases passed
  · intro agrees
    rw [agrees.discordIn?]

theorem Agrees.check {graph : Graph} (agrees : graph.Agrees) : graph.check = .ok () := by
  rw [← checkIn_sorted]
  exact (checkIn_eq_ok_iff graph _).mpr agrees

/-- The check accepts a graph, however its parts came about, just when they agree; and it comes to
the same verdict in whatever order it goes through the tables. -/
theorem check_exact (graph : Graph) :
    (graph.check = .ok () ↔ graph.Agrees) ∧
      ∀ listing : graph.Listing, graph.checkIn listing = .ok () ↔ graph.check = .ok () := by
  have exact := checkIn_eq_ok_iff graph (.sorted graph)
  rw [checkIn_sorted] at exact
  exact ⟨exact, fun listing => (checkIn_eq_ok_iff graph listing).trans exact.symm⟩

/-- An id that leads to the right object is not enough where another object bears it as well. -/
example (node : Node) : ({ empty with
      nodeSlots := #[some node, some node]
      ids := (∅ : Std.ExtTreeMap String Nat).insert node.id 1 } : Graph).check =
    .error (.inconsistent (.idCount 2 1)) := by
  rfl

end HeapGraph.Graph
