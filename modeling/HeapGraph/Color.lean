/-!
Mark colors of a tri-color collector, as dumps spell them.
-/

namespace HeapGraph

/-- The mark color of an object. A tag outside the three colors is kept as it is, so that a dump
that holds one still loads. -/
inductive Color where
  | white
  | gray
  | black
  | other (tag : String)
  deriving Repr, DecidableEq, Inhabited

namespace Color

def ofTag (tag : String) : Color :=
  if tag = "white" then white
  else if tag = "gray" then gray
  else if tag = "black" then black
  else other tag

def tag : Color → String
  | white => "white"
  | gray => "gray"
  | black => "black"
  | other tag => tag

theorem tag_ofTag (text : String) : (ofTag text).tag = text := by
  unfold ofTag
  split
  · simp [tag, *]
  · split
    · simp [tag, *]
    · split <;> simp [tag, *]

end Color

end HeapGraph
