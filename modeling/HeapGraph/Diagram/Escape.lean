/-!
Text inside a quoted string of a DOT document.
-/

namespace HeapGraph.Diagram

def replace (c : Char) (written : List Char) (chars : List Char) : List Char :=
  chars.flatMap fun char => if char = c then written else [char]

/-- Backslashes first, so that those of the other two escapes stay single. -/
def escapeChars (chars : List Char) : List Char :=
  replace '\n' ['\\', 'n'] (replace '"' ['\\', '"'] (replace '\\' ['\\', '\\'] chars))

def escape (text : String) : String :=
  String.ofList (escapeChars text.toList)

end HeapGraph.Diagram
