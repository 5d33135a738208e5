/-!
Byte offsets of a text: where its characters begin, and what stands before such a place.
-/

namespace HeapGraph.Text

/-- The characters of a text that goes on behind `offset` bytes, each with the number of bytes before
it. -/
def offsetsFrom (offset : Nat) : List Char → List (Nat × Char)
  | [] => []
  | char :: rest => (offset, char) :: offsetsFrom (offset + char.utf8Size) rest

def charOffsets (text : String) : List (Nat × Char) :=
  offsetsFrom 0 text.toList

def IsBoundary (text : String) (offset : Nat) : Prop :=
  String.Pos.Raw.IsValid text ⟨offset⟩

def firstBytes (text : String) (count : Nat) (boundary : IsBoundary text count) : String :=
  (text.sliceTo ⟨⟨count⟩, boundary⟩).copy

theorem firstBytes_append (head tail : String)
    (boundary : IsBoundary (head ++ tail) head.utf8ByteSize) :
    firstBytes (head ++ tail) head.utf8ByteSize boundary = head := by
  have splits : String.Pos.Splits (⟨⟨head.utf8ByteSize⟩, boundary⟩ : (head ++ tail).Pos) head tail :=
    ⟨rfl, rfl⟩
  exact splits.copy_sliceTo_eq

theorem map_snd_offsetsFrom (start : Nat) (chars : List Char) :
    (offsetsFrom start chars).map Prod.snd = chars := by
  induction chars generalizing start with
  | nil => rfl
  | cons char rest ih => rw [offsetsFrom, List.map_cons, ih]

theorem map_snd_charOffsets (text : String) : (charOffsets text).map Prod.snd = text.toList :=
  map_snd_offsetsFrom 0 text.toList

section Places

variable {offset : Nat} {char : Char} {before behind : List (Nat × Char)}

theorem offset_of_offsetsFrom {start : Nat} {chars : List Char}
    (parts : offsetsFrom start chars = before ++ (offset, char) :: behind) :
    offset = start + (String.ofList (before.map Prod.snd)).utf8ByteSize := by
  induction before generalizing start chars with
  | nil =>
      cases chars with
      | nil => cases parts
      | cons first rest =>
          cases parts
          simp
  | cons entry before ih =>
      cases chars with
      | nil => cases parts
      | cons first rest =>
          simp only [offsetsFrom, List.cons_append, List.cons.injEq] at parts
          obtain ⟨rfl, parts⟩ := parts
          rw [ih parts, List.map_cons, String.ofList_cons, String.utf8ByteSize_append,
            String.utf8ByteSize_singleton, Nat.add_assoc]

variable {text : String}

theorem split_of_charOffsets (parts : charOffsets text = before ++ (offset, char) :: behind) :
    text = String.ofList (before.map Prod.snd) ++ String.ofList (char :: behind.map Prod.snd) ∧
      offset = (String.ofList (before.map Prod.snd)).utf8ByteSize := by
  constructor
  · rw [← String.ofList_append, ← String.toList_inj, String.toList_ofList, ← map_snd_charOffsets,
      parts, List.map_append, List.map_cons]
  · rw [offset_of_offsetsFrom parts, Nat.zero_add]

theorem isBoundary_of_mem {entry : Nat × Char} (member : entry ∈ charOffsets text) :
    IsBoundary text entry.1 := by
  obtain ⟨before, behind, parts⟩ := List.append_of_mem member
  obtain ⟨halves, place⟩ := split_of_charOffsets parts
  exact String.Pos.Raw.isValid_iff_exists_append.mpr ⟨_, _, halves, by rw [place]; rfl⟩

theorem firstBytes_of_charOffsets (parts : charOffsets text = before ++ (offset, char) :: behind)
    (boundary : IsBoundary text offset) :
    firstBytes text offset boundary = String.ofList (before.map Prod.snd) := by
  obtain ⟨halves, place⟩ := split_of_charOffsets parts
  subst place
  generalize String.ofList (char :: behind.map Prod.snd) = tail at halves
  generalize String.ofList (before.map Prod.snd) = head at halves boundary ⊢
  subst halves
  exact firstBytes_append head tail boundary

end Places

end HeapGraph.Text
