import HeapGraph.Proofs.Diagram.Document

/-!
A DOT document read without its graph, by the rule that a quotation ends at the first mark no backslash
hides. Each object that a reference leads from or to has a line of its own, and no two lines of objects
bear the same id.
-/

namespace HeapGraph.Diagram

/-- What stands between the first marks of a line, and what stands behind them. -/
def firstQuoted (line : List Char) : Option (List Char × List Char) :=
  scanQuoted ((line.dropWhile (· != '"')).drop 1)

/-- The quoted id on the line of an object, where attributes follow it at once. -/
def quotedId? (line : List Char) : Option String :=
  match firstQuoted line with
  | some (id, ' ' :: '[' :: _) => some (String.ofList id)
  | _ => none

def quotedEnds? (line : List Char) : Option (String × String) :=
  match firstQuoted line with
  | some (src, ' ' :: '-' :: '>' :: rest) =>
    (firstQuoted rest).map fun dst => (String.ofList src, String.ofList dst.1)
  | _ => none

def quotedIds (text : String) : List String :=
  (text.toList.splitOn '\n').filterMap quotedId?

def quotedEnds (text : String) : List (String × String) :=
  (text.toList.splitOn '\n').filterMap quotedEnds?

theorem escape_injective : Function.Injective escape := by
  intro left right same
  have chars := congrArg (fun text => unescape text.toList) same
  simp only [toList_escape, unescape_escapeChars] at chars
  exact String.toList_inj.mp chars

theorem filterMap_unlines {α : Type} {read : List Char → Option α} (nothing : read [] = none)
    {lines : List String} (plain : ∀ line ∈ lines, OneLine line) :
    ((unlines lines).toList.splitOn '\n').filterMap read =
      lines.filterMap fun line => read line.toList := by
  rw [splitOn_unlines plain, List.filterMap_append, List.filterMap_map]
  simp [nothing]

theorem firstQuoted_escapeChars (lead id rest : List Char) (free : '"' ∉ lead) :
    firstQuoted (lead ++ '"' :: (escapeChars id ++ '"' :: rest)) = some (escapeChars id, rest) := by
  have passed : ∀ c ∈ lead, (c != '"') = true := by
    intro c inside
    simpa using ne_of_mem_of_not_mem inside free
  unfold firstQuoted
  rw [List.dropWhile_append_of_pos passed, List.dropWhile_cons_of_neg (by simp)]
  exact scanQuoted_escapeChars id rest

theorem NodeAttributes.firstQuoted_line (node : NodeAttributes) :
    ∃ rest, firstQuoted node.line.toList = some (escapeChars node.id.toList, ' ' :: '[' :: rest) := by
  rw [toList_line]
  exact ⟨_, firstQuoted_escapeChars "    ".toList _ _ (by decide)⟩

theorem NodeAttributes.quotedId_line (node : NodeAttributes) :
    quotedId? node.line.toList = some (escape node.id) := by
  obtain ⟨rest, found⟩ := node.firstQuoted_line
  rw [quotedId?, found]
  rfl

theorem NodeAttributes.quotedEnds_line (node : NodeAttributes) :
    quotedEnds? node.line.toList = none := by
  obtain ⟨rest, found⟩ := node.firstQuoted_line
  rw [quotedEnds?, found]
  rfl

theorem EdgeAttributes.firstQuoted_line (edge : EdgeAttributes) :
    ∃ rest, firstQuoted edge.line.toList =
        some (escapeChars edge.src.toList, ' ' :: '-' :: '>' :: ' ' :: '"' ::
          (escapeChars edge.dst.toList ++ '"' :: rest)) := by
  rw [toList_line]
  exact ⟨_, firstQuoted_escapeChars "    ".toList _ _ (by decide)⟩

theorem EdgeAttributes.quotedId_line (edge : EdgeAttributes) :
    quotedId? edge.line.toList = none := by
  obtain ⟨rest, found⟩ := edge.firstQuoted_line
  rw [quotedId?, found]
  rfl

theorem EdgeAttributes.quotedEnds_line (edge : EdgeAttributes) :
    quotedEnds? edge.line.toList = some (escape edge.src, escape edge.dst) := by
  obtain ⟨rest, found⟩ := edge.firstQuoted_line
  rw [quotedEnds?, found]
  simp only
  rw [← List.singleton_append, firstQuoted_escapeChars _ _ _ (by decide)]
  rfl

section Readings

variable {nodes : List NodeAttributes} {edges : List EdgeAttributes}

theorem quotedIds_lines (plain : ∀ node ∈ nodes, node.palette.Plain) :
    quotedIds (unlines (lines nodes edges)) = nodes.map fun node => escape node.id := by
  have headers : header.filterMap (fun line => quotedId? line.toList) = [] := by decide
  have footers : footer.filterMap (fun line => quotedId? line.toList) = [] := by decide
  rw [quotedIds, filterMap_unlines rfl (oneLine_of_mem_lines plain), lines]
  simp [List.filterMap_append, List.filterMap_map, headers, footers,
    NodeAttributes.quotedId_line, EdgeAttributes.quotedId_line]

theorem quotedEnds_lines (plain : ∀ node ∈ nodes, node.palette.Plain) :
    quotedEnds (unlines (lines nodes edges)) =
      edges.map fun edge => (escape edge.src, escape edge.dst) := by
  have headers : header.filterMap (fun line => quotedEnds? line.toList) = [] := by decide
  have footers : footer.filterMap (fun line => quotedEnds? line.toList) = [] := by decide
  rw [quotedEnds, filterMap_unlines rfl (oneLine_of_mem_lines plain), lines]
  simp [List.filterMap_append, List.filterMap_map, headers, footers,
    NodeAttributes.quotedEnds_line, EdgeAttributes.quotedEnds_line]

end Readings

theorem ids_of_nodeAttributes {cap : Nat} {graph : Graph} {attributes : List NodeAttributes}
    (shown : nodeAttributes cap graph = .ok attributes) :
    attributes.map NodeAttributes.id = graph.nodes.map Node.id := by
  have made := mapM_ok_forall₂ shown
  clear shown
  generalize graph.nodes = nodes at made
  induction made with
  | nil => rfl
  | cons first _ ih =>
      unfold NodeAttributes.ofNode at first
      split at first
      · cases first
      · cases first
        rw [List.map_cons, List.map_cons, ih]

theorem count_escape {ids : List String} (unique : ids.Nodup) {id : String} (listed : id ∈ ids) :
    (ids.map escape).count (escape id) = 1 :=
  List.count_eq_one_of_mem (unique.map escape_injective) (List.mem_map_of_mem listed)

open HeapGraph.Graph in
/-- The document of a graph that a history leads to is closed. Read as text, it has a line with the
quoted id of each object and one with the quoted ids at both ends of each reference, no two objects
have the same quoted id, and that of either end of a reference is on the line of exactly one object. -/
theorem render_closed {nodes : List Node} {references : List Reference} {built : Graph}
    (accepted : ofRecords nodes references = .ok built) (changes : List Change) {cap : Nat}
    {text : String} (rendered : render cap (built.run changes) = .ok text) :
    quotedIds text = (built.run changes).nodes.map (fun node => escape node.id) ∧
      quotedEnds text = (built.run changes).edges.map
        (fun edge => (escape edge.src.id, escape edge.dst.id)) ∧
      (quotedIds text).Nodup ∧
      ∀ ends ∈ quotedEnds text,
        (quotedIds text).count ends.1 = 1 ∧ (quotedIds text).count ends.2 = 1 := by
  have consistent := (ofRecords_holds accepted).1.run changes
  obtain ⟨attributes, shown, rfl⟩ := render_eq_ok rendered
  have plain := plain_of_nodeAttributes shown
  have ids : attributes.map (fun node => escape node.id) =
      ((built.run changes).nodes.map Node.id).map escape := by
    rw [← ids_of_nodeAttributes shown, List.map_map]
    rfl
  rw [quotedIds_lines plain, quotedEnds_lines plain, ids]
  refine ⟨List.map_map, List.map_map, consistent.nodup_ids.map escape_injective,
    fun ends inside => ?_⟩
  rw [edgeAttributes, List.map_map] at inside
  obtain ⟨edge, member, rfl⟩ := List.mem_map.mp inside
  exact ⟨count_escape consistent.nodup_ids (List.mem_map_of_mem (src_mem_nodes member)),
    count_escape consistent.nodup_ids (List.mem_map_of_mem (dst_mem_nodes member))⟩

open HeapGraph.Graph in
/-- Two of the ids differ by no more than a backslash before a mark, and a third one holds an arrow
between marks. -/
theorem render_closed_marks :
    ∃ built text,
      ofRecords [exampleNode "a\"" false, exampleNode "a\\\"" false, exampleNode "x" true,
          exampleNode "\" -> \"" false]
        [⟨"a\"", "\" -> \"", none⟩, ⟨"x", "a\"", some "env"⟩] = .ok built ∧
      render 3 (built.run [.remove "x"]) = .ok text ∧ (quotedIds text).Nodup ∧
      ∀ ends ∈ quotedEnds text,
        (quotedIds text).count ends.1 = 1 ∧ (quotedIds text).count ends.2 = 1 := by
  obtain ⟨built, accepted⟩ := ofRecords_ok
    [exampleNode "a\"" false, exampleNode "a\\\"" false, exampleNode "x" true,
      exampleNode "\" -> \"" false]
    [⟨"a\"", "\" -> \"", none⟩, ⟨"x", "a\"", some "env"⟩] (by decide) (by decide)
  obtain ⟨consistent, live, _⟩ := ofRecords_holds accepted
  have left : (built.run [.remove "x"]).nodes = [exampleNode "a\"" false,
      exampleNode "a\\\"" false, exampleNode "\" -> \"" false] := by
    rw [run_cons, run, List.foldl_nil, (consistent.change_remove "x").nodes, live]
    rfl
  obtain ⟨attributes, shown⟩ : ∃ attributes,
      nodeAttributes 3 (built.run [.remove "x"]) = .ok attributes := by
    rw [nodeAttributes, left]
    exact ⟨_, rfl⟩
  have rendered := render_of_nodeAttributes shown
  obtain ⟨_, _, unique, closed⟩ := render_closed accepted [.remove "x"] rendered
  exact ⟨built, _, accepted, rendered, unique, closed⟩

end HeapGraph.Diagram
