import HeapGraph.Proofs.Diagram.Document

/-!
Names as they are shown. They are cut in their bytes, but never inside a character, and what is shown
is told by characters: the base of a name, or as many of its first characters as the cap allows.
-/

namespace HeapGraph.Diagram

/-- What stands before the last `@` of a name, or all of a name without one. -/
inductive BaseOf (name base : String) : Prop
  | whole : '@' ∉ name.toList → base = name → BaseOf name base
  | before (suffix : List Char) : name.toList = base.toList ++ '@' :: suffix → '@' ∉ suffix →
      BaseOf name base

section Bases

variable {name base other : String}

theorem BaseOf.unique (left : BaseOf name base) (right : BaseOf name other) : base = other := by
  cases left with
  | whole none same =>
      cases right with
      | whole _ again => rw [same, again]
      | before suffix parts _ => exact absurd (by simp [parts]) none
  | before suffix parts plain =>
      cases right with
      | whole none _ => exact absurd (by simp [parts]) none
      | before more again morePlain =>
          -- The last mark of a text is the first one from its end.
          have chars : suffix.reverse ++ '@' :: base.toList.reverse =
              more.reverse ++ '@' :: other.toList.reverse := by
            have reversed := congrArg List.reverse (parts.symm.trans again)
            simpa using reversed
          have fronts := (append_cons_inj (by simpa using plain) (by simpa using morePlain) chars).2
          exact String.toList_inj.mp (List.reverse_injective fronts)

theorem lastAt?_split {entry : Nat × Char} (found : lastAt? name = some entry) :
    ∃ before behind, Text.charOffsets name = before ++ (entry.1, '@') :: behind ∧
      '@' ∉ behind.map Prod.snd ∧ baseName name = String.ofList (before.map Prod.snd) := by
  obtain ⟨offset, char⟩ := entry
  obtain ⟨mark, last, first, parts, later⟩ := List.find?_eq_some_iff_append.mp found
  have sign : char = '@' := by simpa using mark
  subst sign
  have place : Text.charOffsets name = first.reverse ++ (offset, '@') :: last.reverse := by
    rw [← List.reverse_inj, parts]
    simp
  refine ⟨first.reverse, last.reverse, place, fun member => ?_, ?_⟩
  · obtain ⟨entry, inside, same⟩ := List.mem_map.mp member
    simpa [same] using later entry (List.mem_reverse.mp inside)
  · unfold baseName
    split
    · rename_i again
      rw [found, Option.some_inj] at again
      subst again
      exact Text.firstBytes_of_charOffsets place _
    · rename_i none
      rw [found] at none
      cases none

theorem baseOf_baseName (name : String) : BaseOf name (baseName name) := by
  cases found : lastAt? name with
  | some entry =>
      obtain ⟨before, behind, parts, plain, base⟩ := lastAt?_split found
      refine .before (behind.map Prod.snd) ?_ plain
      rw [base, String.toList_ofList, ← Text.map_snd_charOffsets, parts, List.map_append,
        List.map_cons]
  | none =>
      refine .whole (fun member => ?_) ?_
      · rw [← Text.map_snd_charOffsets] at member
        obtain ⟨entry, inside, same⟩ := List.mem_map.mp member
        have other := List.find?_eq_none.mp found entry (List.mem_reverse.mpr inside)
        simp [same] at other
      · unfold baseName
        split
        · rename_i again
          rw [found] at again
          cases again
        · rfl

theorem length_charOffsets (text : String) : (Text.charOffsets text).length = text.length := by
  rw [← String.length_toList, ← Text.map_snd_charOffsets, List.length_map]

/-- Where the cap is passed, the offset of the first character too many is the length in bytes of the
characters before it. -/
theorem charOffsets_split {cap : Nat} {entry : Nat × Char}
    (found : (Text.charOffsets base)[cap]? = some entry) :
    ∃ behind, Text.charOffsets base =
      (Text.charOffsets base).take cap ++ (entry.1, entry.2) :: behind := by
  obtain ⟨below, same⟩ := List.getElem?_eq_some_iff.mp found
  refine ⟨(Text.charOffsets base).drop (cap + 1), ?_⟩
  conv => lhs; rw [← List.take_append_drop cap (Text.charOffsets base),
    List.drop_eq_getElem_cons below, same]

theorem take_charOffsets (text : String) (cap : Nat) :
    ((Text.charOffsets text).take cap).map Prod.snd = text.toList.take cap := by
  rw [List.map_take, Text.map_snd_charOffsets]

theorem capped_eq (cap : Nat) (base : String) :
    capped cap base =
      if base.length ≤ cap then base else String.ofList (base.toList.take cap) ++ "..." := by
  unfold capped
  split
  · rename_i entry found
    obtain ⟨behind, parts⟩ := charOffsets_split found
    have below := (List.getElem?_eq_some_iff.mp found).1
    rw [length_charOffsets] at below
    rw [if_neg (by omega), Text.firstBytes_of_charOffsets parts, take_charOffsets]
    rfl
  · rename_i none
    have short := List.getElem?_eq_none_iff.mp none
    rw [length_charOffsets] at short
    rw [if_pos short]

end Bases

/-- A name is shown by its base and a count of characters, and both cuts are made between characters.
So names with one base are shown alike, whatever stands behind the last `@`. -/
theorem displayName_characters (cap : Nat) (name : String) :
    ∃ base, BaseOf name base ∧ (∀ other, BaseOf name other → other = base) ∧
      displayName cap name =
        (if base.length ≤ cap then base else String.ofList (base.toList.take cap) ++ "...") ∧
      (∀ entry, lastAt? name = some entry →
        Text.IsBoundary name entry.1 ∧ entry.1 = base.utf8ByteSize) ∧
      (∀ entry, (Text.charOffsets base)[cap]? = some entry → Text.IsBoundary base entry.1 ∧
        entry.1 = (String.ofList (base.toList.take cap)).utf8ByteSize) ∧
      ∀ other, BaseOf other base → displayName cap other = displayName cap name := by
  have own := baseOf_baseName name
  refine ⟨baseName name, own, fun other again => again.unique own, capped_eq cap (baseName name),
    fun entry found => ⟨Text.isBoundary_of_mem (mem_of_lastAt? found), ?_⟩,
    fun entry found => ⟨Text.isBoundary_of_mem (List.mem_of_getElem? found), ?_⟩, ?_⟩
  · obtain ⟨before, behind, parts, _, base⟩ := lastAt?_split found
    rw [(Text.split_of_charOffsets parts).2, base]
  · obtain ⟨behind, parts⟩ := charOffsets_split found
    rw [(Text.split_of_charOffsets parts).2, take_charOffsets]
  · intro other shared
    rw [displayName, displayName, (baseOf_baseName other).unique shared]

end HeapGraph.Diagram
