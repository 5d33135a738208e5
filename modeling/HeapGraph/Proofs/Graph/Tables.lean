import HeapGraph.Graph.Link
import Mathlib.Data.List.Nodup
import Mathlib.Data.List.Perm.Subperm

/-!
Slots that hold a value or none, and tables that lead from a key to a slot. A table that agrees with
the slots in one direction agrees with them altogether as soon as the numbers are the same.
-/

namespace HeapGraph

section Slots

variable {α : Type}

theorem filterMap_slots (slots : Array (Option α)) :
    slots.toList.filterMap (fun slot => slot) =
      (List.range slots.size).filterMap fun index : Nat => slots[index]?.join := by
  have listed : slots.toList.map (fun slot => slot) =
      (List.range slots.size).map fun index : Nat => slots[index]?.join := by
    apply List.ext_getElem
    · simp
    · intro index _ bound
      have below : index < slots.size := by simpa using bound
      simp [below]
  have read := congrArg (List.filterMap fun slot => slot) listed
  rwa [List.filterMap_map, List.filterMap_map] at read

theorem lt_size_of_join {slots : Array (Option α)} {index : Nat} {value : α}
    (found : slots[index]?.join = some value) : index < slots.size := by
  by_cases below : index < slots.size
  · exact below
  · simp [below] at found

theorem mem_filterMap_slots (slots : Array (Option α)) (value : α) :
    value ∈ slots.toList.filterMap (fun slot => slot) ↔
      ∃ index : Nat, slots[index]?.join = some value := by
  rw [filterMap_slots]
  simp only [List.mem_filterMap, List.mem_range]
  constructor
  · rintro ⟨index, _, found⟩
    exact ⟨index, found⟩
  · rintro ⟨index, found⟩
    exact ⟨index, lt_size_of_join found, found⟩

theorem join_setIfInBounds_none (slots : Array (Option α)) (index other : Nat) :
    (slots.setIfInBounds index none)[other]?.join =
      if other = index then none else slots[other]?.join := by
  rw [Array.getElem?_setIfInBounds]
  by_cases same : index = other
  · subst other
    by_cases below : index < slots.size <;> simp [below]
  · simp [same, Ne.symm same]

theorem join_push (slots : Array (Option α)) (value : α) (other : Nat) :
    (slots.push (some value))[other]?.join =
      if other = slots.size then some value else slots[other]?.join := by
  rw [Array.getElem?_push]
  split <;> rfl

theorem slots_ext {left right : Array (Option α)} (size : left.size = right.size)
    (same : ∀ index : Nat, left[index]?.join = right[index]?.join) : left = right := by
  apply Array.ext size
  intro index leftBound rightBound
  have read := same index
  rwa [Array.getElem?_eq_getElem leftBound, Array.getElem?_eq_getElem rightBound] at read

theorem join_size (slots : Array (Option α)) : slots[slots.size]?.join = none := by
  simp

theorem filterMap_filter_range (slots : Nat → Option α) (keep : α → Bool) (count : Nat) :
    (List.range count).filterMap (fun index => (slots index).filter keep) =
      ((List.range count).filterMap slots).filter keep := by
  rw [List.filter_filterMap]

def occupied {κ : Type} (slots : Array (Option α)) (key : α → κ) : List (κ × Nat) :=
  (List.range slots.size).filterMap fun slot : Nat =>
    slots[slot]?.join.map fun value => (key value, slot)

section Occupied

variable {κ : Type} {slots : Array (Option α)} {key : α → κ}

theorem mem_occupied {owner : κ} {slot : Nat} : (owner, slot) ∈ occupied slots key ↔
    ∃ value, slots[slot]?.join = some value ∧ key value = owner := by
  simp only [occupied, List.mem_filterMap, List.mem_range, Option.map_eq_some_iff, Prod.mk.injEq]
  constructor
  · rintro ⟨_, _, value, held, rfl, rfl⟩
    exact ⟨value, held, rfl⟩
  · rintro ⟨value, held, rfl⟩
    exact ⟨slot, lt_size_of_join held, value, held, rfl, rfl⟩

theorem nodup_occupied : (occupied slots key).Nodup := by
  refine List.nodup_range.filterMap ?_
  intro first second entry firstHeld secondHeld
  simp only [Option.mem_def, Option.map_eq_some_iff] at firstHeld secondHeld
  obtain ⟨_, _, rfl⟩ := firstHeld
  obtain ⟨_, _, same⟩ := secondHeld
  exact (Prod.mk.inj same).2.symm

theorem length_occupied :
    (occupied slots key).length = (slots.toList.filterMap fun slot => slot).length := by
  rw [filterMap_slots, occupied, List.length_filterMap_eq_countP, List.length_filterMap_eq_countP]
  simp only [Option.isSome_map]

end Occupied

end Slots

section Tables

variable {κ : Type} [Ord κ] [Std.TransOrd κ] [Std.LawfulEqOrd κ] {table : Std.ExtTreeMap κ Nat}
  {holds : κ → Nat → Prop}

theorem getElem?_insert_iff
    (listed : ∀ (key : κ) (slot : Nat), table[key]? = some slot ↔ holds key slot) {key : κ}
    {slot : Nat} (fresh : ∀ place, ¬holds key place) (other : κ) (place : Nat) :
    (table.insert key slot)[other]? = some place ↔
      (place = slot ∧ other = key) ∨ holds other place := by
  rw [← listed]
  by_cases same : key = other
  · subst other
    rw [Std.ExtTreeMap.getElem?_insert_self, Option.some.injEq, listed]
    constructor
    · intro last
      exact Or.inl ⟨last.symm, rfl⟩
    · rintro (⟨last, _⟩ | held)
      · exact last.symm
      · exact absurd held (fresh place)
  · have differ : compare key other ≠ .eq := fun equal => same (Std.LawfulEqOrd.eq_of_compare equal)
    rw [Std.ExtTreeMap.getElem?_insert, if_neg differ]
    simp [Ne.symm same]

theorem getElem?_erase_iff
    (listed : ∀ (key : κ) (slot : Nat), table[key]? = some slot ↔ holds key slot) {key : κ}
    {slot : Nat} (held : holds key slot) (alone : ∀ other, holds other slot → other = key)
    (other : κ) (place : Nat) :
    (table.erase key)[other]? = some place ↔ place ≠ slot ∧ holds other place := by
  rw [← listed]
  by_cases same : key = other
  · subst other
    rw [Std.ExtTreeMap.getElem?_erase_self, (listed key slot).mpr held, Option.some.injEq]
    constructor
    · intro none
      cases none
    · rintro ⟨differ, last⟩
      exact absurd last.symm differ
  · have differ : compare key other ≠ .eq := fun equal => same (Std.LawfulEqOrd.eq_of_compare equal)
    rw [Std.ExtTreeMap.getElem?_erase, if_neg differ]
    constructor
    · intro found
      refine ⟨?_, found⟩
      rintro rfl
      exact same (alone other ((listed other place).mp found)).symm
    · exact And.right

theorem table_ext {other : Std.ExtTreeMap κ Nat}
    (listed : ∀ (key : κ) (slot : Nat), table[key]? = some slot ↔ holds key slot)
    (otherListed : ∀ (key : κ) (slot : Nat), other[key]? = some slot ↔ holds key slot) :
    table = other := by
  apply Std.ExtTreeMap.ext_getElem?
  intro key
  apply Option.ext
  intro slot
  rw [listed, otherListed]

theorem nodup_toList : table.toList.Nodup :=
  Std.ExtTreeMap.distinct_keys_toList.imp fun differ same =>
    differ (by rw [same, Std.ReflOrd.compare_self])

section Slots

variable {α : Type} {slots : Array (Option α)} (key : α → κ)

/-- A table that leads from each key to a slot that holds something under that key leads to every
occupied slot when it has as many entries as slots are occupied. -/
theorem getElem?_iff_of_leads
    (size : table.size = (slots.toList.filterMap fun slot => slot).length)
    (leads : ∀ (owner : κ) (slot : Nat), table[owner]? = some slot →
      ∃ value, slots[slot]?.join = some value ∧ key value = owner) (owner : κ) (slot : Nat) :
    table[owner]? = some slot ↔ ∃ value, slots[slot]?.join = some value ∧ key value = owner := by
  have inside : table.toList ⊆ occupied slots key := by
    rintro ⟨owner, slot⟩ member
    have found := Std.ExtTreeMap.mem_toList_iff_getElem?_eq_some.mp member
    exact mem_occupied.mpr (leads owner slot found)
  have length : (occupied slots key).length = table.toList.length := by
    rw [length_occupied, Std.ExtTreeMap.length_toList, size]
  have all : table.toList.Perm (occupied slots key) :=
    (List.subperm_of_subset nodup_toList inside).perm_of_length_le (Nat.le_of_eq length)
  rw [← mem_occupied, ← all.mem_iff, Std.ExtTreeMap.mem_toList_iff_getElem?_eq_some]

/-- A table that lists every occupied slot lists nothing else when it has as many entries as slots
are occupied. -/
theorem getElem?_iff_of_lists
    (size : table.size = (slots.toList.filterMap fun slot => slot).length)
    (lists : ∀ (slot : Nat) (value : α), slots[slot]?.join = some value →
      table[key value]? = some slot) (owner : κ) (slot : Nat) :
    table[owner]? = some slot ↔ ∃ value, slots[slot]?.join = some value ∧ key value = owner := by
  have inside : occupied slots key ⊆ table.toList := by
    rintro ⟨owner, slot⟩ member
    obtain ⟨value, held, rfl⟩ := mem_occupied.mp member
    exact Std.ExtTreeMap.mem_toList_iff_getElem?_eq_some.mpr (lists slot value held)
  have length : (occupied slots key).length = table.toList.length := by
    rw [length_occupied, Std.ExtTreeMap.length_toList, size]
  have all : (occupied slots key).Perm table.toList :=
    (List.subperm_of_subset nodup_occupied inside).perm_of_length_le (Nat.le_of_eq length.symm)
  rw [← mem_occupied, all.mem_iff, Std.ExtTreeMap.mem_toList_iff_getElem?_eq_some]

theorem size_of_getElem?_iff
    (listed : ∀ (owner : κ) (slot : Nat), table[owner]? = some slot ↔
      ∃ value, slots[slot]?.join = some value ∧ key value = owner) :
    table.size = (slots.toList.filterMap fun slot => slot).length := by
  have all : table.toList.Perm (occupied slots key) := by
    refine (List.perm_ext_iff_of_nodup nodup_toList nodup_occupied).mpr ?_
    rintro ⟨owner, slot⟩
    rw [Std.ExtTreeMap.mem_toList_iff_getElem?_eq_some, mem_occupied]
    exact listed owner slot
  rw [← Std.ExtTreeMap.length_toList, all.length_eq, length_occupied]

end Slots

end Tables

end HeapGraph
