import HeapGraph.Diagram.Render
import HeapGraph.Proofs.Diagram.Escape
import HeapGraph.Proofs.Graph.History

/-!
A DOT document determines what it shows. It falls into its lines, the lines of objects can be told
from those of references, and the attributes can be read off a line, whatever the texts in it hold.
-/

namespace HeapGraph.Diagram

section Lists

variable {α β : Type}

theorem append_cons_inj {stop : α} {left right rest more : List α} (leftFree : stop ∉ left)
    (rightFree : stop ∉ right) (same : left ++ stop :: rest = right ++ stop :: more) :
    left = right ∧ rest = more := by
  induction left generalizing right with
  | nil =>
      cases right with
      | nil => simpa using same
      | cons first right =>
          simp only [List.nil_append, List.cons_append, List.cons.injEq] at same
          exact absurd (by simp [same.1]) rightFree
  | cons first left ih =>
      cases right with
      | nil =>
          simp only [List.nil_append, List.cons_append, List.cons.injEq] at same
          exact absurd (by simp [same.1]) leftFree
      | cons second right =>
          simp only [List.cons_append, List.cons.injEq] at same
          obtain ⟨rfl, same⟩ := same
          simp only [List.mem_cons, not_or] at leftFree rightFree
          obtain ⟨rfl, follows⟩ := ih leftFree.2 rightFree.2 same
          exact ⟨rfl, follows⟩

/-- Where one kind of lines ends and another begins can be seen, as long as no line of the one kind is
among the lines behind. -/
theorem map_append_inj {f : α → β} {left right : List α} {rest more : List β}
    (faithful : ∀ a ∈ left, ∀ b ∈ right, f a = f b → a = b) (leftApart : ∀ a ∈ left, f a ∉ more)
    (rightApart : ∀ b ∈ right, f b ∉ rest) (same : left.map f ++ rest = right.map f ++ more) :
    left = right ∧ rest = more := by
  induction left generalizing right with
  | nil =>
      cases right with
      | nil => exact ⟨rfl, by simpa using same⟩
      | cons b right =>
          simp only [List.map_nil, List.nil_append] at same
          exact absurd (by simp [same]) (rightApart b (by simp))
  | cons a left ih =>
      cases right with
      | nil =>
          simp only [List.map_nil, List.nil_append] at same
          exact absurd (by simp [← same]) (leftApart a (by simp))
      | cons b right =>
          simp only [List.map_cons, List.cons_append, List.cons.injEq] at same
          obtain ⟨heads, tails⟩ := same
          have first : a = b := faithful a (by simp) b (by simp) heads
          subst first
          obtain ⟨rfl, follows⟩ := ih
            (fun a member b other => faithful a (by simp [member]) b (by simp [other]))
            (fun a member => leftApart a (by simp [member]))
            (fun b member => rightApart b (by simp [member])) tails
          exact ⟨rfl, follows⟩

end Lists

section Lines

def OneLine (line : String) : Prop :=
  '\n' ∉ line.toList

theorem toList_unlines_cons (line : String) (lines : List String) :
    (unlines (line :: lines)).toList = line.toList ++ '\n' :: (unlines lines).toList := by
  simp [unlines]

theorem intercalate_append_nil (lines : List (List Char)) :
    ['\n'].intercalate (lines ++ [[]]) = lines.flatMap (· ++ ['\n']) := by
  induction lines with
  | nil => rfl
  | cons line lines ih =>
      rw [List.cons_append, List.intercalate_cons_of_ne_nil (by simp), ih, List.flatMap_cons]

theorem toList_unlines (lines : List String) :
    (unlines lines).toList = ['\n'].intercalate (lines.map String.toList ++ [[]]) := by
  rw [intercalate_append_nil]
  induction lines with
  | nil => rfl
  | cons line lines ih =>
      rw [toList_unlines_cons, ih, List.map_cons, List.flatMap_cons]
      simp

/-- The lines of a document can be told apart, and behind the last one there is nothing. -/
theorem splitOn_unlines {lines : List String} (plain : ∀ line ∈ lines, OneLine line) :
    (unlines lines).toList.splitOn '\n' = lines.map String.toList ++ [[]] := by
  rw [toList_unlines]
  refine List.splitOn_intercalate '\n' ?_ (by simp)
  intro line member
  rcases List.mem_append.mp member with inLines | last
  · obtain ⟨text, inside, rfl⟩ := List.mem_map.mp inLines
    exact plain text inside
  · rw [List.mem_singleton.mp last]
    exact List.not_mem_nil

theorem count_newline_unlines {lines : List String} (plain : ∀ line ∈ lines, OneLine line) :
    (unlines lines).toList.count '\n' = lines.length := by
  induction lines with
  | nil => rfl
  | cons line lines ih =>
      have first : line.toList.count '\n' = 0 := List.count_eq_zero.mpr (plain line (by simp))
      rw [toList_unlines_cons, List.count_append, List.count_cons_self, first,
        ih fun line member => plain line (by simp [member]), List.length_cons]
      omega

theorem unlines_inj {left right : List String} (leftPlain : ∀ line ∈ left, OneLine line)
    (rightPlain : ∀ line ∈ right, OneLine line) (same : unlines left = unlines right) :
    left = right := by
  induction left generalizing right with
  | nil =>
      cases right with
      | nil => rfl
      | cons line right =>
          have chars := congrArg String.toList same
          rw [toList_unlines_cons] at chars
          simp [unlines] at chars
  | cons first left ih =>
      cases right with
      | nil =>
          have chars := congrArg String.toList same
          rw [toList_unlines_cons] at chars
          simp [unlines] at chars
      | cons second right =>
          have chars := congrArg String.toList same
          rw [toList_unlines_cons, toList_unlines_cons] at chars
          obtain ⟨heads, tails⟩ :=
            append_cons_inj (leftPlain first (by simp)) (rightPlain second (by simp)) chars
          rw [String.toList_inj.mp heads, ih (fun line member => leftPlain line (by simp [member]))
            (fun line member => rightPlain line (by simp [member])) (String.toList_inj.mp tails)]

end Lines

/-- The colors are words of letters, so that they end where a space or a bracket comes. -/
def Palette.Plain (palette : Palette) : Prop :=
  ∀ c ∈ palette.fill.toList ++ palette.font.toList, c.isAlpha = true

theorem Palette.plain_of_node {node : Node} {palette : Palette}
    (shown : Palette.ofNode node = .ok palette) : palette.Plain := by
  unfold Palette.ofNode at shown
  split at shown
  · cases shown
    exact List.all_eq_true.mp (by decide)
  · cases shown
    exact List.all_eq_true.mp (by decide)
  · cases shown
    exact List.all_eq_true.mp (by decide)
  · cases shown

theorem Palette.Plain.not_mem {palette : Palette} (plain : palette.Plain) {c : Char}
    (apart : c.isAlpha = false) : c ∉ palette.fill.toList ∧ c ∉ palette.font.toList := by
  have free : c ∉ palette.fill.toList ++ palette.font.toList := by
    intro member
    rw [plain c member] at apart
    cases apart
  simpa [not_or] using free

theorem Border.not_mem_name (border : Border) {c : Char} (apart : c.isAlpha = false) :
    c ∉ border.name.toList := by
  have letters : ∀ d ∈ border.name.toList, d.isAlpha = true :=
    List.all_eq_true.mp (by cases border <;> decide)
  intro member
  rw [letters c member] at apart
  cases apart

theorem Border.name_injective {left right : Border} (same : left.name = right.name) :
    left = right := by
  cases left <;> cases right <;> first | rfl | exact absurd same (by decide)

namespace NodeAttributes

theorem toList_line (node : NodeAttributes) :
    node.line.toList = "    \"".toList ++ (escapeChars node.id.toList ++ '"' ::
      (" [label=\"".toList ++ (escapeChars node.label.toList ++ '"' ::
        (" color=".toList ++ (node.border.name.toList ++ ' ' ::
          ("style=filled fillcolor=".toList ++ (node.palette.fill.toList ++ ' ' ::
            ("fontcolor=".toList ++ (node.palette.font.toList ++ ']' :: [])))))))))  := by
  unfold line escape
  simp only [String.toList_append, String.toList_ofList, List.append_assoc]
  rfl

theorem oneLine_line {node : NodeAttributes} (plain : node.palette.Plain) : OneLine node.line := by
  obtain ⟨fill, font⟩ := plain.not_mem (c := '\n') (by decide)
  have border := node.border.not_mem_name (c := '\n') (by decide)
  have id := newline_not_mem_escapeChars node.id.toList
  have label := newline_not_mem_escapeChars node.label.toList
  unfold OneLine
  rw [toList_line]
  simp only [List.mem_append, List.mem_cons, List.not_mem_nil, or_false, not_or]
  exact ⟨by decide, id, by decide, by decide, label, by decide, by decide, border, by decide,
    by decide, fill, by decide, by decide, font, by decide⟩

theorem line_inj {left right : NodeAttributes} (leftPlain : left.palette.Plain)
    (rightPlain : right.palette.Plain) (same : left.line = right.line) : left = right := by
  have chars := congrArg String.toList same
  rw [toList_line, toList_line] at chars
  obtain ⟨id, chars⟩ := escapeChars_append_inj (List.append_cancel_left chars)
  obtain ⟨label, chars⟩ := escapeChars_append_inj (List.append_cancel_left chars)
  obtain ⟨border, chars⟩ := append_cons_inj (left.border.not_mem_name (by decide))
    (right.border.not_mem_name (by decide)) (List.append_cancel_left chars)
  obtain ⟨fill, chars⟩ := append_cons_inj (leftPlain.not_mem (by decide)).1
    (rightPlain.not_mem (by decide)).1 (List.append_cancel_left chars)
  have font := List.append_cancel_right (List.append_cancel_left chars)
  cases left with
  | mk leftId leftLabel leftBorder leftPalette =>
      cases right with
      | mk rightId rightLabel rightBorder rightPalette =>
          cases leftPalette
          cases rightPalette
          simp only [String.toList_inj] at id label border fill font
          rw [id, label, Border.name_injective border, fill, font]

end NodeAttributes

namespace EdgeAttributes

def constraintText (edge : EdgeAttributes) : String :=
  if edge.constraint then "true" else "false"

theorem toList_line (edge : EdgeAttributes) :
    edge.line.toList = "    \"".toList ++ (escapeChars edge.src.toList ++ '"' ::
      (" -> \"".toList ++ (escapeChars edge.dst.toList ++ '"' ::
        (" [label=\"".toList ++ (escapeChars edge.label.toList ++ '"' ::
          (" constraint=".toList ++ (edge.constraintText.toList ++ ']' :: []))))))) := by
  unfold line escape
  simp only [String.toList_append, String.toList_ofList, List.append_assoc]
  rfl

theorem oneLine_line (edge : EdgeAttributes) : OneLine edge.line := by
  have src := newline_not_mem_escapeChars edge.src.toList
  have dst := newline_not_mem_escapeChars edge.dst.toList
  have label := newline_not_mem_escapeChars edge.label.toList
  have constraint : '\n' ∉ edge.constraintText.toList := by
    unfold constraintText
    split <;> decide
  unfold OneLine
  rw [toList_line]
  simp only [List.mem_append, List.mem_cons, List.not_mem_nil, or_false, not_or]
  exact ⟨by decide, src, by decide, by decide, dst, by decide, by decide, label, by decide,
    by decide, constraint, by decide⟩

theorem line_inj {left right : EdgeAttributes} (same : left.line = right.line) : left = right := by
  have chars := congrArg String.toList same
  rw [toList_line, toList_line] at chars
  obtain ⟨src, chars⟩ := escapeChars_append_inj (List.append_cancel_left chars)
  obtain ⟨dst, chars⟩ := escapeChars_append_inj (List.append_cancel_left chars)
  obtain ⟨label, chars⟩ := escapeChars_append_inj (List.append_cancel_left chars)
  have text := String.toList_inj.mp (List.append_cancel_right (List.append_cancel_left chars))
  have constraint : left.constraint = right.constraint := by
    unfold constraintText at text
    cases leftConstraint : left.constraint <;> cases rightConstraint : right.constraint <;>
      simp [leftConstraint, rightConstraint] at text ⊢
  cases left with
  | mk leftSrc leftDst leftLabel leftConstraint =>
      cases right with
      | mk rightSrc rightDst rightLabel rightConstraint =>
          simp only [String.toList_inj] at src dst label constraint
          rw [src, dst, label, constraint]

end EdgeAttributes

/-- Behind the first quotation an arrow shows a reference, and a bracket an object. -/
theorem NodeAttributes.line_ne_edge (node : NodeAttributes) (edge : EdgeAttributes) :
    node.line ≠ edge.line := by
  intro same
  have chars := congrArg String.toList same
  rw [toList_line, EdgeAttributes.toList_line] at chars
  obtain ⟨_, chars⟩ := escapeChars_append_inj (List.append_cancel_left chars)
  simp at chars

theorem NodeAttributes.line_not_mem_footer (node : NodeAttributes) : node.line ∉ footer := by
  intro member
  have chars := congrArg String.toList (List.mem_singleton.mp member)
  rw [toList_line] at chars
  simp at chars

theorem EdgeAttributes.line_not_mem_footer (edge : EdgeAttributes) : edge.line ∉ footer := by
  intro member
  have chars := congrArg String.toList (List.mem_singleton.mp member)
  rw [toList_line] at chars
  simp at chars

section Documents

variable {nodes otherNodes : List NodeAttributes} {edges otherEdges : List EdgeAttributes}

theorem oneLine_of_mem_lines (plain : ∀ node ∈ nodes, node.palette.Plain) :
    ∀ line ∈ lines nodes edges, OneLine line := by
  intro line member
  simp only [lines, List.mem_append, List.mem_map] at member
  rcases member with ((inHeader | ⟨node, inNodes, rfl⟩) | ⟨edge, _, rfl⟩) | inFooter
  · have headers : ∀ line ∈ header, '\n' ∉ line.toList := by decide
    exact headers line inHeader
  · exact NodeAttributes.oneLine_line (plain node inNodes)
  · exact edge.oneLine_line
  · have footers : ∀ line ∈ footer, '\n' ∉ line.toList := by decide
    exact footers line inFooter

theorem lines_inj (plain : ∀ node ∈ nodes, node.palette.Plain)
    (otherPlain : ∀ node ∈ otherNodes, node.palette.Plain)
    (same : lines nodes edges = lines otherNodes otherEdges) :
    nodes = otherNodes ∧ edges = otherEdges := by
  unfold lines at same
  simp only [List.append_assoc] at same
  have body := List.append_cancel_left same
  have apart (node : NodeAttributes) (edges : List EdgeAttributes) :
      node.line ∉ edges.map EdgeAttributes.line ++ footer := by
    intro member
    rcases List.mem_append.mp member with inEdges | inFooter
    · obtain ⟨edge, _, equal⟩ := List.mem_map.mp inEdges
      exact node.line_ne_edge edge equal.symm
    · exact node.line_not_mem_footer inFooter
  obtain ⟨sameNodes, tail⟩ := map_append_inj
    (fun a member b other => NodeAttributes.line_inj (plain a member) (otherPlain b other))
    (fun a _ => apart a otherEdges) (fun b _ => apart b edges) body
  obtain ⟨sameEdges, _⟩ := map_append_inj (fun a _ b _ => EdgeAttributes.line_inj)
    (fun a _ => a.line_not_mem_footer) (fun b _ => b.line_not_mem_footer) tail
  exact ⟨sameNodes, sameEdges⟩

theorem unlines_lines_inj (plain : ∀ node ∈ nodes, node.palette.Plain)
    (otherPlain : ∀ node ∈ otherNodes, node.palette.Plain)
    (same : unlines (lines nodes edges) = unlines (lines otherNodes otherEdges)) :
    nodes = otherNodes ∧ edges = otherEdges :=
  lines_inj plain otherPlain
    (unlines_inj (oneLine_of_mem_lines plain) (oneLine_of_mem_lines otherPlain) same)

end Documents

section Attributes

variable {cap : Nat} {graph : Graph}

theorem NodeAttributes.plain_of_node {node : Node} {attributes : NodeAttributes}
    (shown : NodeAttributes.ofNode cap node = .ok attributes) : attributes.palette.Plain := by
  unfold NodeAttributes.ofNode at shown
  split at shown
  · cases shown
  · rename_i palette
    cases shown
    exact Palette.plain_of_node palette

theorem plain_of_forall₂ {nodes : List Node} {attributes : List NodeAttributes}
    (made : List.Forall₂ (fun node shown => NodeAttributes.ofNode cap node = .ok shown)
      nodes attributes) : ∀ node ∈ attributes, node.palette.Plain := by
  induction made with
  | nil => simp
  | cons first _ ih => exact List.forall_mem_cons.mpr ⟨NodeAttributes.plain_of_node first, ih⟩

theorem plain_of_nodeAttributes {attributes : List NodeAttributes}
    (shown : nodeAttributes cap graph = .ok attributes) :
    ∀ node ∈ attributes, node.palette.Plain :=
  plain_of_forall₂ (mapM_ok_forall₂ shown)

theorem length_nodeAttributes {attributes : List NodeAttributes}
    (shown : nodeAttributes cap graph = .ok attributes) :
    attributes.length = graph.nodes.length :=
  (mapM_ok_forall₂ shown).length_eq.symm

def EdgeAttributes.ofReference (reference : Reference) : EdgeAttributes :=
  ⟨reference.src, reference.dst, reference.name.getD "", reference.name != some envName⟩

theorem edgeAttributes_eq (graph : Graph) :
    edgeAttributes graph = graph.entries.map fun entry => .ofReference entry.1 := by
  simp only [edgeAttributes, Graph.entries, List.map_map]
  rfl

theorem render_of_nodeAttributes {attributes : List NodeAttributes}
    (shown : nodeAttributes cap graph = .ok attributes) :
    render cap graph = .ok (unlines (lines attributes (edgeAttributes graph))) := by
  rw [render, shown]

theorem render_eq_ok {text : String} (rendered : render cap graph = .ok text) :
    ∃ attributes, nodeAttributes cap graph = .ok attributes ∧
      text = unlines (lines attributes (edgeAttributes graph)) := by
  unfold render at rendered
  split at rendered
  · cases rendered
  · rename_i attributes shown
    cases rendered
    exact ⟨attributes, shown, rfl⟩

end Attributes

open HeapGraph.Graph in
/-- The document of a graph that a history leads to has a line for each object and one for each
reference, between four lines that begin it and one that ends it. Two such documents that are the
same, from whatever graphs and cut to whatever caps, show the same attributes in the same order. -/
theorem render_determines {nodes : List Node} {references : List Reference} {built : Graph}
    (accepted : ofRecords nodes references = .ok built) (changes : List Change) {cap : Nat}
    {text : String} (rendered : render cap (built.run changes) = .ok text) :
    (∃ attributes, nodeAttributes cap (built.run changes) = .ok attributes ∧
      text = unlines (header ++ attributes.map NodeAttributes.line ++
        (edgeAttributes (built.run changes)).map EdgeAttributes.line ++ footer) ∧
      (∀ line ∈ header ++ attributes.map NodeAttributes.line ++
        (edgeAttributes (built.run changes)).map EdgeAttributes.line ++ footer, OneLine line) ∧
      header.length = 4 ∧ attributes.length = (built.run changes).nodeCount ∧
      (edgeAttributes (built.run changes)).length = (built.run changes).edgeCount ∧
      footer.length = 1 ∧
      text.toList.count '\n' =
        5 + (built.run changes).nodeCount + (built.run changes).edgeCount) ∧
    ∀ {others : List Node} {records : List Reference} {another : Graph},
      ofRecords others records = .ok another → ∀ (steps : List Change) (limit : Nat),
      render limit (another.run steps) = .ok text →
        nodeAttributes cap (built.run changes) = nodeAttributes limit (another.run steps) ∧
        edgeAttributes (built.run changes) = edgeAttributes (another.run steps) := by
  have consistent := (ofRecords_holds accepted).1.run changes
  obtain ⟨attributes, shown, rfl⟩ := render_eq_ok rendered
  have plain := plain_of_nodeAttributes shown
  have nodeLines : attributes.length = (built.run changes).nodeCount := by
    rw [length_nodeAttributes shown, consistent.nodeCount_eq]
  have edgeLines : (edgeAttributes (built.run changes)).length = (built.run changes).edgeCount := by
    rw [edgeAttributes, List.length_map, consistent.edgeCount_eq]
  constructor
  · refine ⟨attributes, shown, rfl, oneLine_of_mem_lines plain, rfl, nodeLines, edgeLines, rfl, ?_⟩
    rw [count_newline_unlines (oneLine_of_mem_lines plain)]
    simp only [lines, List.length_append, List.length_map, nodeLines, edgeLines]
    simp only [header, footer, List.length_cons, List.length_nil]
    omega
  · intro others records another _ steps limit renderedAlike
    obtain ⟨otherAttributes, otherShown, same⟩ := render_eq_ok renderedAlike
    obtain ⟨sameNodes, sameEdges⟩ :=
      unlines_lines_inj plain (plain_of_nodeAttributes otherShown) same
    exact ⟨by rw [shown, otherShown, sameNodes], sameEdges⟩

open HeapGraph.Graph in
/-- Neither the part of a name behind its `@` nor the difference between no name and the empty one is
shown. -/
theorem render_determines_shown :
    ∃ built another text,
      ofRecords [⟨"a\\", "t", "x@1", true, false, .white, 0⟩, ⟨"\" -> \"", "t\n", "yyy", false, true, .gray, 9⟩]
        [⟨"a\\", "\" -> \"", none⟩] = .ok built ∧
      ofRecords [⟨"a\\", "t", "x@2", true, false, .white, 0⟩, ⟨"\" -> \"", "t\n", "yyy", false, true, .gray, 9⟩]
        [⟨"a\\", "\" -> \"", some ""⟩] = .ok another ∧
      render 3 (built.run []) = .ok text ∧ render 4 (another.run []) = .ok text ∧
      nodeAttributes 3 (built.run []) = nodeAttributes 4 (another.run []) ∧
      edgeAttributes (built.run []) = edgeAttributes (another.run []) := by
  obtain ⟨built, accepted⟩ := ofRecords_ok
    [⟨"a\\", "t", "x@1", true, false, .white, 0⟩, ⟨"\" -> \"", "t\n", "yyy", false, true, .gray, 9⟩]
    [⟨"a\\", "\" -> \"", none⟩] (by decide) (by decide)
  obtain ⟨another, alike⟩ := ofRecords_ok
    [⟨"a\\", "t", "x@2", true, false, .white, 0⟩, ⟨"\" -> \"", "t\n", "yyy", false, true, .gray, 9⟩]
    [⟨"a\\", "\" -> \"", some ""⟩] (by decide) (by decide)
  obtain ⟨_, builtNodes, builtHolds⟩ := ofRecords_holds accepted
  obtain ⟨_, anotherNodes, anotherHolds⟩ := ofRecords_holds alike
  have shown : nodeAttributes 3 built = .ok
      [⟨"a\\", "(t) x (0)", .green, ⟨"white", "black"⟩⟩,
        ⟨"\" -> \"", "(t\n) yyy (9)", .purple, ⟨"lightgray", "black"⟩⟩] := by
    rw [nodeAttributes, builtNodes]
    rfl
  have shownAlike : nodeAttributes 4 another = .ok
      [⟨"a\\", "(t) x (0)", .green, ⟨"white", "black"⟩⟩,
        ⟨"\" -> \"", "(t\n) yyy (9)", .purple, ⟨"lightgray", "black"⟩⟩] := by
    rw [nodeAttributes, anotherNodes]
    rfl
  have edges : edgeAttributes another = edgeAttributes built := by
    rw [edgeAttributes_eq, edgeAttributes_eq, builtHolds.entries, anotherHolds.entries]
    rfl
  have first := render_of_nodeAttributes shown
  have second := render_of_nodeAttributes shownAlike
  rw [edges] at second
  exact ⟨built, another, _, accepted, alike, first, second,
    (render_determines accepted [] first).2 alike [] 4 second⟩

end HeapGraph.Diagram
