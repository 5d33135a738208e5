import HeapGraph.Dump.Load
import HeapGraph.Proofs.Json.Records
import HeapGraph.Proofs.Json.Writing

/-!
Which JSON values are dumps. A document is decoded exactly if its value is a dump, and the dump that
comes out is that one.
-/

namespace HeapGraph

open Json

section Values

/-- The value of an object record. Its memory category is written with digits only. -/
def Json.Value.IsNode (value : Value) (node : Node) : Prop :=
  ∃ tag memcat, value.Fields ["id", "type", "name", "fixed", "synthesized", "color", "memcat"]
      [some (.string node.id), some (.string node.kind), some (.string node.name),
        some (.boolean node.fixed), some (.boolean node.synthesized), some (.string tag),
        some memcat] ∧
    node.color = Color.ofTag tag ∧ memcat.IsOctet node.memcat

/-- The name of a reference that is anonymous if the name is null or left out. -/
inductive NameValue : Option Value → Option String → Prop
  | absent : NameValue none none
  | null : NameValue (some .null) none
  | text (name : String) : NameValue (some (.string name)) (some name)

def Json.Value.IsReference (value : Value) (reference : Reference) : Prop :=
  ∃ name, value.Fields ["src", "dst", "name"]
      [some (.string reference.src), some (.string reference.dst), name] ∧
    NameValue name reference.name

def Json.Value.IsDump (value : Value) (dump : Dump) : Prop :=
  ∃ nodes references,
    value.Fields ["nodes", "edges"] [some (.list nodes), some (.list references)] ∧
      List.Forall₂ Value.IsNode nodes dump.nodes ∧
        List.Forall₂ Value.IsReference references dump.references

end Values

section Drafts

variable {σ α : Type} {slot : Slot σ} {draft : σ} {found : Option Value}

theorem need_bind {name : String} {value : Option α} {β : Type} {next : α → Except Complaint β}
    {result : β} :
    (need name value >>= next) = .ok result ↔
      ∃ content, value = some content ∧ next content = .ok result := by
  cases value with
  | none => simp [need, bind, Except.bind]
  | some content => simp [need, bind, Except.bind]

theorem holds_iff : slot.Holds draft found ↔
    (slot.get draft).elim (found = none) fun content =>
      ∃ value, found = some value ∧ slot.means value content := by
  cases found with
  | none => cases held : slot.get draft <;> simp [Slot.Holds, held]
  | some value => cases held : slot.get draft <;> simp [Slot.Holds, held]

end Drafts

section Nodes

def NodeDraft.ofNode (node : Node) : NodeDraft :=
  ⟨some node.id, some node.kind, some node.name, some node.fixed, some node.synthesized,
    some node.color, some node.memcat⟩

theorem NodeDraft.finish_eq_ok {draft : NodeDraft} {node : Node} :
    draft.finish = .ok node ↔ draft = .ofNode node := by
  obtain ⟨id, kind, name, fixed, synthesized, color, memcat⟩ := draft
  simp only [NodeDraft.finish, need_bind, NodeDraft.ofNode, NodeDraft.mk.injEq]
  constructor
  · rintro ⟨_, rfl, _, rfl, _, rfl, _, rfl, _, rfl, _, rfl, _, rfl, same⟩
    cases same
    simp
  · rintro ⟨rfl, rfl, rfl, rfl, rfl, rfl, rfl⟩
    exact ⟨_, rfl, _, rfl, _, rfl, _, rfl, _, rfl, _, rfl, _, rfl, rfl⟩

def Node.slots : List (Slot NodeDraft) := [
  ⟨"id", true, string, fun value text => value = .string text, NodeDraft.id,
    fun draft value => { draft with id := some value }⟩,
  ⟨"type", true, string, fun value text => value = .string text, NodeDraft.kind,
    fun draft value => { draft with kind := some value }⟩,
  ⟨"name", true, string, fun value text => value = .string text, NodeDraft.name,
    fun draft value => { draft with name := some value }⟩,
  ⟨"fixed", true, boolean, fun value flag => value = .boolean flag, NodeDraft.fixed,
    fun draft value => { draft with fixed := some value }⟩,
  ⟨"synthesized", true, boolean, fun value flag => value = .boolean flag, NodeDraft.synthesized,
    fun draft value => { draft with synthesized := some value }⟩,
  ⟨"color", true, string.map Color.ofTag,
    fun value color => ∃ tag, value = .string tag ∧ color = Color.ofTag tag, NodeDraft.color,
    fun draft value => { draft with color := some value }⟩,
  ⟨"memcat", true, octet, Value.IsOctet, NodeDraft.memcat,
    fun draft value => { draft with memcat := some value }⟩]

theorem Node.slots_lawful : Json.Lawful Node.slots where
  names := by decide
  get_set := by simp [Node.slots]
  apart := by simp [Node.slots]
  ext := by
    rintro ⟨⟩ ⟨⟩ same
    simpa [Node.slots] using same

theorem Node.form_lawful : Node.form.Lawful Node.slots where
  fields := rfl
  lawful := Node.slots_lawful
  reads := by
    simp only [Node.slots, List.forall_mem_cons, List.not_mem_nil, false_implies, implies_true,
      and_true]
    exact ⟨string_reads, string_reads, string_reads, boolean_reads, boolean_reads,
      string_reads.map Color.ofTag, octet_reads⟩
  blank := by simp [Node.slots, Node.form]
  complete := by
    intro draft node finished
    rw [NodeDraft.finish_eq_ok.mp finished]
    simp [Node.slots, NodeDraft.ofNode]

theorem Node.holds_iff {node : Node} {found : List (Option Value)} :
    List.Forall₂ (fun slot value => slot.Holds (NodeDraft.ofNode node) value) Node.slots found ↔
      ∃ tag memcat, (node.color = Color.ofTag tag ∧ memcat.IsOctet node.memcat) ∧
        found = [some (.string node.id), some (.string node.kind), some (.string node.name),
          some (.boolean node.fixed), some (.boolean node.synthesized), some (.string tag),
          some memcat] := by
  simp [Node.slots, List.forall₂_cons_left_iff, HeapGraph.holds_iff, NodeDraft.ofNode]

theorem node_reads : Node.form.reader.Reads Value.IsNode := by
  refine Node.form_lawful.reader_reads.congr fun value node => ?_
  constructor
  · rintro ⟨tag, memcat, fields, meant⟩
    exact ⟨.ofNode node, NodeDraft.finish_eq_ok.mpr rfl, _, fields,
      Node.holds_iff.mpr ⟨tag, memcat, meant, rfl⟩⟩
  · rintro ⟨draft, finished, found, fields, all⟩
    rw [NodeDraft.finish_eq_ok.mp finished] at all
    obtain ⟨tag, memcat, meant, rfl⟩ := Node.holds_iff.mp all
    exact ⟨tag, memcat, fields, meant⟩

end Nodes

section References

def ReferenceDraft.ofReference (reference : Reference) (name : Option (Option String)) :
    ReferenceDraft :=
  ⟨some reference.src, some reference.dst, name⟩

theorem ReferenceDraft.finish_eq_ok {draft : ReferenceDraft} {reference : Reference} :
    draft.finish = .ok reference ↔
      ∃ name, draft = .ofReference reference name ∧ name.getD none = reference.name := by
  obtain ⟨src, dst, name⟩ := draft
  simp only [ReferenceDraft.finish, need_bind, ReferenceDraft.ofReference, ReferenceDraft.mk.injEq]
  constructor
  · rintro ⟨_, rfl, _, rfl, same⟩
    cases same
    simp
  · rintro ⟨_, ⟨rfl, rfl, rfl⟩, same⟩
    exact ⟨_, rfl, _, rfl, by rw [same]; rfl⟩

def Json.Value.IsName (value : Value) (name : Option String) : Prop :=
  (value = .null ∧ name = none) ∨ ∃ text, value = .string text ∧ name = some text

def Reference.slots : List (Slot ReferenceDraft) := [
  ⟨"src", true, string, fun value text => value = .string text, ReferenceDraft.src,
    fun draft value => { draft with src := some value }⟩,
  ⟨"dst", true, string, fun value text => value = .string text, ReferenceDraft.dst,
    fun draft value => { draft with dst := some value }⟩,
  ⟨"name", false, stringOrNull, Value.IsName, ReferenceDraft.name,
    fun draft value => { draft with name := some value }⟩]

theorem Reference.slots_lawful : Json.Lawful Reference.slots where
  names := by decide
  get_set := by simp [Reference.slots]
  apart := by simp [Reference.slots]
  ext := by
    rintro ⟨⟩ ⟨⟩ same
    simpa [Reference.slots] using same

theorem Reference.form_lawful : Reference.form.Lawful Reference.slots where
  fields := rfl
  lawful := Reference.slots_lawful
  reads := by
    simp only [Reference.slots, List.forall_mem_cons, List.not_mem_nil, false_implies, implies_true,
      and_true]
    exact ⟨string_reads, string_reads, stringOrNull_reads⟩
  blank := by simp [Reference.slots, Reference.form]
  complete := by
    intro draft reference finished
    obtain ⟨name, rfl, _⟩ := ReferenceDraft.finish_eq_ok.mp finished
    simp [Reference.slots, ReferenceDraft.ofReference]

theorem Reference.holds_iff {reference : Reference} {name : Option (Option String)}
    {found : List (Option Value)} :
    List.Forall₂ (fun slot value => slot.Holds (ReferenceDraft.ofReference reference name) value)
        Reference.slots found ↔
      ∃ value, name.elim (value = none) (fun name => ∃ given, value = some given ∧ given.IsName name) ∧
        found = [some (.string reference.src), some (.string reference.dst), value] := by
  simp [Reference.slots, List.forall₂_cons_left_iff, HeapGraph.holds_iff, ReferenceDraft.ofReference]

theorem nameValue_iff {value : Option Value} {name : Option String} :
    NameValue value name ↔ ∃ read : Option (Option String), read.getD none = name ∧
      read.elim (value = none) fun name => ∃ given, value = some given ∧ given.IsName name := by
  constructor
  · intro meant
    cases meant with
    | absent => exact ⟨none, rfl, rfl⟩
    | null => exact ⟨some none, rfl, .null, rfl, Or.inl ⟨rfl, rfl⟩⟩
    | text name => exact ⟨some (some name), rfl, .string name, rfl, Or.inr ⟨name, rfl, rfl⟩⟩
  · rintro ⟨read, same, given⟩
    cases read with
    | none =>
        cases same
        rw [show value = none from given]
        exact .absent
    | some read =>
        cases same
        obtain ⟨given, rfl, (⟨rfl, none⟩ | ⟨text, rfl, some⟩)⟩ := given
        · rw [Option.getD_some, none]
          exact .null
        · rw [Option.getD_some, some]
          exact .text text

theorem reference_reads : Reference.form.reader.Reads Value.IsReference := by
  refine Reference.form_lawful.reader_reads.congr fun value reference => ?_
  constructor
  · rintro ⟨name, fields, meant⟩
    obtain ⟨read, same, given⟩ := nameValue_iff.mp meant
    exact ⟨.ofReference reference read, ReferenceDraft.finish_eq_ok.mpr ⟨read, rfl, same⟩, _, fields,
      Reference.holds_iff.mpr ⟨name, given, rfl⟩⟩
  · rintro ⟨draft, finished, found, fields, all⟩
    obtain ⟨read, rfl, same⟩ := ReferenceDraft.finish_eq_ok.mp finished
    obtain ⟨name, given, rfl⟩ := Reference.holds_iff.mp all
    exact ⟨name, fields, nameValue_iff.mpr ⟨read, same, given⟩⟩

end References

section Dumps

def DumpDraft.ofDump (dump : Dump) : DumpDraft :=
  ⟨some dump.nodes, some dump.references⟩

theorem DumpDraft.finish_eq_ok {draft : DumpDraft} {dump : Dump} :
    draft.finish = .ok dump ↔ draft = .ofDump dump := by
  obtain ⟨nodes, references⟩ := draft
  simp only [DumpDraft.finish, need_bind, DumpDraft.ofDump, DumpDraft.mk.injEq]
  constructor
  · rintro ⟨_, rfl, _, rfl, same⟩
    cases same
    simp
  · rintro ⟨rfl, rfl⟩
    exact ⟨_, rfl, _, rfl, rfl⟩

def Dump.slots : List (Slot DumpDraft) := [
  ⟨"nodes", true, list Node.form.reader,
    fun value nodes => ∃ items, value = .list items ∧ List.Forall₂ Value.IsNode items nodes,
    DumpDraft.nodes, fun draft value => { draft with nodes := some value }⟩,
  ⟨"edges", true, list Reference.form.reader,
    fun value references => ∃ items, value = .list items ∧
      List.Forall₂ Value.IsReference items references,
    DumpDraft.references, fun draft value => { draft with references := some value }⟩]

theorem Dump.slots_lawful : Json.Lawful Dump.slots where
  names := by decide
  get_set := by simp [Dump.slots]
  apart := by simp [Dump.slots]
  ext := by
    rintro ⟨⟩ ⟨⟩ same
    simpa [Dump.slots] using same

theorem Dump.form_lawful : Dump.form.Lawful Dump.slots where
  fields := rfl
  lawful := Dump.slots_lawful
  reads := by
    simp only [Dump.slots, List.forall_mem_cons, List.not_mem_nil, false_implies, implies_true,
      and_true]
    exact ⟨list_reads node_reads, list_reads reference_reads⟩
  blank := by simp [Dump.slots, Dump.form]
  complete := by
    intro draft dump finished
    rw [DumpDraft.finish_eq_ok.mp finished]
    simp [Dump.slots, DumpDraft.ofDump]

theorem Dump.holds_iff {dump : Dump} {found : List (Option Value)} :
    List.Forall₂ (fun slot value => slot.Holds (DumpDraft.ofDump dump) value) Dump.slots found ↔
      ∃ nodes, List.Forall₂ Value.IsNode nodes dump.nodes ∧
        ∃ references, List.Forall₂ Value.IsReference references dump.references ∧
          found = [some (.list nodes), some (.list references)] := by
  simp [Dump.slots, List.forall₂_cons_left_iff, HeapGraph.holds_iff, DumpDraft.ofDump]

theorem dump_reads : Dump.form.reader.Reads Value.IsDump := by
  refine Dump.form_lawful.reader_reads.congr fun value dump => ?_
  constructor
  · rintro ⟨nodes, references, fields, nodesMeant, referencesMeant⟩
    exact ⟨.ofDump dump, DumpDraft.finish_eq_ok.mpr rfl, _, fields,
      Dump.holds_iff.mpr ⟨nodes, nodesMeant, references, referencesMeant, rfl⟩⟩
  · rintro ⟨draft, finished, found, fields, all⟩
    rw [DumpDraft.finish_eq_ok.mp finished] at all
    obtain ⟨nodes, nodesMeant, references, referencesMeant, rfl⟩ := Dump.holds_iff.mp all
    exact ⟨nodes, references, fields, nodesMeant, referencesMeant⟩

theorem decode_eq_ok_iff {feed : Feed} {bytes : List UInt8} {dump : Dump} :
    Dump.decode feed bytes = .ok dump ↔ Dump.form.reader.readDocument feed bytes = .ok dump := by
  unfold Dump.decode Dump.read
  cases Dump.form.reader.readDocument feed bytes with
  | error fault => simp [Except.mapError]
  | ok found => simp [Except.mapError]

theorem decode_eq_ok_iff_read {feed : Feed} {document : List UInt8} {dump : Dump} :
    Dump.decode feed document = .ok dump ↔ Dump.read feed document = .ok dump := by
  unfold Dump.decode
  cases Dump.read feed document <;> simp [Except.mapError]

theorem decode_eq_error_iff_read {feed : Feed} {document : List UInt8} {mistake : Mistake} :
    Dump.decode feed document = .error (.invalid mistake) ↔
      Dump.read feed document = .error mistake := by
  unfold Dump.decode
  cases Dump.read feed document <;> simp [Except.mapError]

end Dumps

section Documents

/-- A document is decoded into a dump exactly if its value is that dump. -/
theorem decode_iff_isDump {value : Value} {bytes : List UInt8} (document : Document value bytes)
    (feed : Feed) (dump : Dump) :
    Dump.decode feed bytes = .ok dump ↔ value.IsDump dump := by
  rw [decode_eq_ok_iff]
  exact dump_reads.readDocument document feed dump

/-- A reference by position, keys the other way round, one of them escaped, and blanks. -/
def sampleText : String :=
  "\x7b\"edges\":[[\"a\",\"a\"]], \"\\u006eodes\" :\n[[\"a\",\"t\",\"n\",true,false,\"grey\",255]]\x7d"

def sampleEdge : List (Value × List Char) :=
  [(.string "a", stringChars "a"), (.string "a", stringChars "a")]

def sampleNode : List (Value × List Char) :=
  [(.string "a", stringChars "a"), (.string "t", stringChars "t"), (.string "n", stringChars "n"),
    (.boolean true, boolChars true), (.boolean false, boolChars false),
    (.string "grey", stringChars "grey"), (.number (.ofNat 255), Nat.toDigits 10 255)]

def sampleValue : Value :=
  .object [("edges", .list [.list (sampleEdge.map Prod.fst)]),
    ("nodes", .list [.list (sampleNode.map Prod.fst)])]

theorem quoted_nodes : Quoted "nodes" (word "\"\\u006eodes\"") := by
  have unit : CodeUnit (((0 * 16 + 0) * 16 + 6) * 16 + 14) (word "006e") :=
    .mk ⟨by decide, by decide⟩ ⟨by decide, by decide⟩ ⟨by decide, by decide⟩ ⟨by decide, by decide⟩
  have letter : Letter 'n' (word "\\u" ++ word "006e") := .unit unit
  have letters : Letters "nodes".toList _ := .cons letter (letters_escaped "odes".toList)
  exact .mk letters

theorem written_sample (entries : List (Value × List Char))
    (written : ∀ entry ∈ entries, Written entry.1 (encode entry.2)) :
    Written (.list [.list (entries.map Prod.fst)])
      (encode (arrayChars [arrayChars (entries.map Prod.snd)])) := by
  have inner := written_arrayChars Prod.fst Prod.snd entries written
  exact written_arrayChars (fun _ => .list (entries.map Prod.fst))
    (fun _ => arrayChars (entries.map Prod.snd)) [()] (by simpa using inner)

theorem document_sample : Document sampleValue (word sampleText) := by
  have edges := written_sample sampleEdge (by simp [sampleEdge, written_stringChars])
  have nodes := written_sample sampleNode
    (by simp [sampleNode, written_stringChars, written_boolChars, written_toDigits])
  have blank : Blanks [ascii ' '] := blanks_singleton (by decide)
  have newline : Blanks [ascii '\n'] := blanks_singleton (by decide)
  have object := Written.object
    (.bare "edges" (.list [.list (sampleEdge.map Prod.fst)])
      (arrayChars [arrayChars (sampleEdge.map Prod.snd)]))
    [⟨word " ", "nodes", word "\"\\u006eodes\"", word " ", word "\n", _, _, []⟩]
    (List.forall_mem_cons.mpr ⟨Member.spaced_bare _ _ _,
      List.forall_mem_singleton.mpr ⟨blank, quoted_nodes, blank, newline, blanks_nil⟩⟩)
    (List.forall_mem_cons.mpr ⟨edges, List.forall_mem_singleton.mpr nodes⟩)
  exact .mk ⟨[], _, _, []⟩ ⟨blanks_nil, blanks_nil⟩ object

theorem decode_iff_isDump_sample :
    Document sampleValue (word sampleText) ∧
      Dump.decode .whole (word sampleText) =
        .ok ⟨[⟨"a", "t", "n", true, false, .other "grey", 255⟩], [⟨"a", "a", none⟩]⟩ := by
  refine ⟨document_sample, (decode_iff_isDump document_sample .whole _).mpr ?_⟩
  refine ⟨[.list (sampleNode.map Prod.fst)], [.list (sampleEdge.map Prod.fst)],
    .keyed _ _ rfl, .cons ?_ .nil, .cons ?_ .nil⟩
  · exact ⟨"grey", .number (.ofNat 255), .positional (sampleNode.map Prod.fst) 0 rfl, by decide, _,
      rfl, ⟨rfl, rfl, rfl⟩, Digits.value_ofNat 255⟩
  · exact ⟨none, .positional (sampleEdge.map Prod.fst) 1 rfl, .absent⟩

end Documents

end HeapGraph
