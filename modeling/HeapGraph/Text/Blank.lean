import HeapGraph.Text.CharSet

/-!
Blank characters and the text without them at its two ends.
-/

namespace HeapGraph.Text

/-- Characters with the property White_Space of Unicode. -/
def blank : CharSet := ⟨#[
    (0x9, 0xD), (0x20, 0x20), (0x85, 0x85), (0xA0, 0xA0), (0x1680, 0x1680), (0x2000, 0x200A),
    (0x2028, 0x2029), (0x202F, 0x202F), (0x205F, 0x205F), (0x3000, 0x3000)]⟩

def isBlank (text : String) : Bool :=
  text.toList.all blank.contains

def trimChars (chars : List Char) : List Char :=
  ((chars.dropWhile blank.contains).reverse.dropWhile blank.contains).reverse

def trim (text : String) : String :=
  String.ofList (trimChars text.toList)

end HeapGraph.Text
