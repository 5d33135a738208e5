import HeapGraph.Dump.Basic
import HeapGraph.Json.Written

/-!
Dumps written as compact JSON documents.
-/

namespace HeapGraph

open Json

def Node.jsonChars (node : Node) : List Char :=
  objectChars [
    ("id", stringChars node.id),
    ("type", stringChars node.kind),
    ("name", stringChars node.name),
    ("fixed", boolChars node.fixed),
    ("synthesized", boolChars node.synthesized),
    ("color", stringChars node.color.tag),
    ("memcat", Nat.toDigits 10 node.memcat.toNat)]

def Reference.jsonChars (reference : Reference) : List Char :=
  objectChars [
    ("src", stringChars reference.src),
    ("dst", stringChars reference.dst),
    ("name", optionChars reference.name)]

def Dump.jsonChars (dump : Dump) : List Char :=
  objectChars [
    ("nodes", arrayChars (dump.nodes.map Node.jsonChars)),
    ("edges", arrayChars (dump.references.map Reference.jsonChars))]

def Dump.write (dump : Dump) : String :=
  String.ofList dump.jsonChars

end HeapGraph
