import HeapGraph.Dump.Writer
import HeapGraph.Proofs.Dump.Schema

/-!
Dumps that are written and decoded again. What is written is a document of the dump, and it is decoded
into the same dump, but for colors kept under a tag that names one of the three.
-/

namespace HeapGraph

open Json

section Recognition

/-- The color as it comes back: one of the three, if the tag it is kept under names one. -/
def Color.recognized : Color → Color
  | .other "white" => .white
  | .other "gray" => .gray
  | .other "black" => .black
  | color => color

theorem Color.ofTag_tag (color : Color) : Color.ofTag color.tag = color.recognized := by
  unfold Color.recognized
  split
  next => rfl
  next => rfl
  next => rfl
  next white gray black =>
    cases color with
    | white => rfl
    | gray => rfl
    | black => rfl
    | other tag =>
        have notWhite : tag ≠ "white" := fun same => white (by rw [same])
        have notGray : tag ≠ "gray" := fun same => gray (by rw [same])
        have notBlack : tag ≠ "black" := fun same => black (by rw [same])
        simp [Color.ofTag, Color.tag, notWhite, notGray, notBlack]

theorem Color.tag_recognized (color : Color) : color.recognized.tag = color.tag := by
  rw [← Color.ofTag_tag, Color.tag_ofTag]

def Node.recognized (node : Node) : Node :=
  { node with color := node.color.recognized }

def Dump.recognized (dump : Dump) : Dump :=
  { dump with nodes := dump.nodes.map Node.recognized }

theorem Node.jsonChars_recognized (node : Node) : node.recognized.jsonChars = node.jsonChars := by
  simp [Node.jsonChars, Node.recognized, Color.tag_recognized]

theorem Dump.write_recognized (dump : Dump) : dump.recognized.write = dump.write := by
  simp [Dump.write, Dump.jsonChars, Dump.recognized, Function.comp_def, Node.jsonChars_recognized]

end Recognition

section Values

def Node.toValue (node : Node) : Value :=
  .object [("id", .string node.id), ("type", .string node.kind), ("name", .string node.name),
    ("fixed", .boolean node.fixed), ("synthesized", .boolean node.synthesized),
    ("color", .string node.color.tag), ("memcat", .number (.ofNat node.memcat.toNat))]

def Reference.toValue (reference : Reference) : Value :=
  .object [("src", .string reference.src), ("dst", .string reference.dst),
    ("name", .ofOption reference.name)]

def Dump.toValue (dump : Dump) : Value :=
  .object [("nodes", .list (dump.nodes.map Node.toValue)),
    ("edges", .list (dump.references.map Reference.toValue))]

theorem Node.toValue_isNode (node : Node) : node.toValue.IsNode node.recognized := by
  refine ⟨node.color.tag, .number (.ofNat node.memcat.toNat), .keyed _ _ rfl, ?_, _, rfl,
    ⟨rfl, rfl, rfl⟩, Digits.value_ofNat _⟩
  exact (Color.ofTag_tag node.color).symm

theorem Reference.toValue_isReference (reference : Reference) :
    reference.toValue.IsReference reference := by
  refine ⟨some (.ofOption reference.name), .keyed _ _ rfl, ?_⟩
  cases reference.name with
  | none => exact .null
  | some name => exact .text name

theorem Dump.toValue_isDump (dump : Dump) : dump.toValue.IsDump dump.recognized := by
  refine ⟨_, _, .keyed _ _ rfl, ?_, ?_⟩
  · rw [List.forall₂_map_left_iff, Dump.recognized, List.forall₂_map_right_iff, List.forall₂_same]
    exact fun node _ => node.toValue_isNode
  · rw [List.forall₂_map_left_iff, Dump.recognized, List.forall₂_same]
    exact fun reference _ => reference.toValue_isReference

end Values

section Texts

theorem Node.written_jsonChars (node : Node) : Written node.toValue (encode node.jsonChars) := by
  refine written_objectChars [("id", .string node.id, stringChars node.id),
    ("type", .string node.kind, stringChars node.kind),
    ("name", .string node.name, stringChars node.name),
    ("fixed", .boolean node.fixed, boolChars node.fixed),
    ("synthesized", .boolean node.synthesized, boolChars node.synthesized),
    ("color", .string node.color.tag, stringChars node.color.tag),
    ("memcat", .number (.ofNat node.memcat.toNat), Nat.toDigits 10 node.memcat.toNat)] ?_
  simp [written_stringChars, written_boolChars, written_toDigits]

theorem Reference.written_jsonChars (reference : Reference) :
    Written reference.toValue (encode reference.jsonChars) := by
  refine written_objectChars [("src", .string reference.src, stringChars reference.src),
    ("dst", .string reference.dst, stringChars reference.dst),
    ("name", .ofOption reference.name, optionChars reference.name)] ?_
  simp [written_stringChars, written_optionChars]

theorem Dump.written_jsonChars (dump : Dump) : Written dump.toValue (encode dump.jsonChars) := by
  have nodes := written_arrayChars Node.toValue Node.jsonChars dump.nodes
    fun node _ => node.written_jsonChars
  have references := written_arrayChars Reference.toValue Reference.jsonChars dump.references
    fun reference _ => reference.written_jsonChars
  refine written_objectChars [("nodes", .list (dump.nodes.map Node.toValue),
      arrayChars (dump.nodes.map Node.jsonChars)),
    ("edges", .list (dump.references.map Reference.toValue),
      arrayChars (dump.references.map Reference.jsonChars))] ?_
  simp [nodes, references]

theorem Dump.document_write (dump : Dump) : Document dump.toValue (Text.utf8 dump.write) := by
  have document := Document.mk (.bare dump.toValue dump.jsonChars) (Item.spaced_bare _ _)
    dump.written_jsonChars
  rw [Item.bytes_bare] at document
  rw [Dump.write, utf8_ofList]
  exact document

end Texts

theorem decode_of_recognized {dump : Dump} {feed : Feed} (recognized : dump.recognized = dump) :
    Dump.decode feed (Text.utf8 dump.write) = .ok dump := by
  rw [decode_eq_ok_iff, dump_reads.readDocument dump.document_write]
  have isDump := dump.toValue_isDump
  rwa [recognized] at isDump

/-- A dump that is written is decoded into the same dump with its colors recognized, which is written
the same way. -/
theorem decode_write (dump : Dump) (feed : Feed) :
    Dump.decode feed (Text.utf8 dump.write) = .ok dump.recognized ∧
      dump.recognized.write = dump.write := by
  refine ⟨?_, dump.write_recognized⟩
  rw [decode_eq_ok_iff, dump_reads.readDocument dump.document_write]
  exact dump.toValue_isDump

end HeapGraph
