import HeapGraph.Color

/-!
Heap dumps: the objects of a heap and the references between them.
-/

namespace HeapGraph

structure Node where
  /-- Names the object within its dump. -/
  id : String
  /-- What the object is: a table, a function, … -/
  kind : String
  name : String
  /-- Whether the collector may never free the object. -/
  fixed : Bool
  /-- Whether the object belongs to a foreign heap and was added by the dumper. -/
  synthesized : Bool
  color : Color
  /-- Memory category. -/
  memcat : UInt8
  deriving Repr, DecidableEq, Inhabited

def Node.sameObject (left right : Node) : Bool :=
  left.id = right.id

def Node.objectHash (node : Node) : UInt64 :=
  hash node.id

/-- A reference from one object to another, both named by their ids. One without a name is
anonymous, which is not the same as having the empty name. -/
structure Reference where
  src : String
  dst : String
  name : Option String
  deriving Repr, DecidableEq, Inhabited

structure Dump where
  nodes : List Node
  references : List Reference
  deriving Repr, DecidableEq, Inhabited

end HeapGraph
