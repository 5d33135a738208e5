import HeapGraph.Dump.Basic
import HeapGraph.Json.Record

/-!
Dumps read from JSON documents.
-/

namespace HeapGraph

open Json

structure NodeDraft where
  id : Option String
  kind : Option String
  name : Option String
  fixed : Option Bool
  synthesized : Option Bool
  color : Option Color
  memcat : Option UInt8

def NodeDraft.finish (draft : NodeDraft) : Except Complaint Node := do
  let id ← need "id" draft.id
  let kind ← need "type" draft.kind
  let name ← need "name" draft.name
  let fixed ← need "fixed" draft.fixed
  let synthesized ← need "synthesized" draft.synthesized
  let color ← need "color" draft.color
  let memcat ← need "memcat" draft.memcat
  return ⟨id, kind, name, fixed, synthesized, color, memcat⟩

def Node.form : RecordForm NodeDraft Node where
  title := "struct Node"
  fields := [
    .ofReader "id" string true NodeDraft.id fun draft value => { draft with id := some value },
    .ofReader "type" string true NodeDraft.kind fun draft value => { draft with kind := some value },
    .ofReader "name" string true NodeDraft.name fun draft value => { draft with name := some value },
    .ofReader "fixed" boolean true NodeDraft.fixed fun draft value => { draft with fixed := some value },
    .ofReader "synthesized" boolean true NodeDraft.synthesized fun draft value =>
      { draft with synthesized := some value },
    .ofReader "color" (string.map Color.ofTag) true NodeDraft.color fun draft value =>
      { draft with color := some value },
    .ofReader "memcat" octet true NodeDraft.memcat fun draft value =>
      { draft with memcat := some value }]
  blank := ⟨none, none, none, none, none, none, none⟩
  finish := NodeDraft.finish

structure ReferenceDraft where
  src : Option String
  dst : Option String
  name : Option (Option String)

/-- A reference without a name field is anonymous. -/
def ReferenceDraft.finish (draft : ReferenceDraft) : Except Complaint Reference := do
  let src ← need "src" draft.src
  let dst ← need "dst" draft.dst
  return ⟨src, dst, draft.name.getD none⟩

def Reference.form : RecordForm ReferenceDraft Reference where
  title := "struct EdgeRecord"
  fields := [
    .ofReader "src" string true ReferenceDraft.src fun draft value => { draft with src := some value },
    .ofReader "dst" string true ReferenceDraft.dst fun draft value => { draft with dst := some value },
    .ofReader "name" stringOrNull false ReferenceDraft.name fun draft value =>
      { draft with name := some value }]
  blank := ⟨none, none, none⟩
  finish := ReferenceDraft.finish

structure DumpDraft where
  nodes : Option (List Node)
  references : Option (List Reference)

def DumpDraft.finish (draft : DumpDraft) : Except Complaint Dump := do
  let nodes ← need "nodes" draft.nodes
  let references ← need "edges" draft.references
  return ⟨nodes, references⟩

def Dump.form : RecordForm DumpDraft Dump where
  title := "struct HeapDump"
  fields := [
    .ofReader "nodes" (list Node.form.reader) true DumpDraft.nodes fun draft value =>
      { draft with nodes := some value },
    .ofReader "edges" (list Reference.form.reader) true DumpDraft.references fun draft value =>
      { draft with references := some value }]
  blank := ⟨none, none⟩
  finish := DumpDraft.finish

def Dump.read (feed : Feed) (document : List UInt8) : Except Mistake Dump :=
  match form.reader.readDocument feed document with
  | .ok dump => .ok dump
  | .error fault => .error (fault.locate document)

end HeapGraph
