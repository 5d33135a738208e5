import HeapGraph.Path

/-!
Paths as they are walked, name by name.
-/

namespace HeapGraph

/-- The names between the slashes of a path, `.` and `..` among them. -/
structure Route where
  absolute : Bool
  names : List String
  /-- Whether slashes stand behind the last name. -/
  trailing : Bool
  deriving Repr, DecidableEq

namespace Route

def ofPath (path : String) : Route :=
  let pieces := Path.pieces path.toList
  ⟨Path.isAbsolute path, (pieces.filter (· != [])).map String.ofList,
    pieces.getLast? = some [] && pieces.any (· != [])⟩

/-- Leaves out the dots at the end. One that is all there is of a relative route stays. -/
def trimIdle (route : Route) : Route :=
  let names := (route.names.reverse.dropWhile (· = ".")).reverse
  if names.isEmpty && !route.absolute then { route with names := route.names.take 1 }
  else { route with names }

def isTop (route : Route) : Bool :=
  route.trimIdle.names.isEmpty

def parent (route : Route) : Route :=
  let above : Route := ⟨route.absolute, route.trimIdle.names.dropLast, false⟩
  if above.names.isEmpty then above else above.trimIdle

/-- A route and those above it that still lead somewhere, `count` of them at most. -/
def upward (route : Route) : (count : Nat) → List Route
  | 0 => []
  | count + 1 => if route.isTop then [] else route :: route.parent.upward count

end Route

end HeapGraph
