import HeapGraph.Json.Record
import HeapGraph.Proofs.Json.Reading
import Mathlib.Data.List.Nodup

/-!
What the members of an object make of a draft, field by field. Gathering them one after the other, with
a fault for a field that comes twice, comes to the same as looking each field up on its own.
-/

namespace HeapGraph.Json

def occurrences (members : List (String × Value)) (key : String) : List Value :=
  (members.filter fun member => member.1 = key).map Prod.snd

/-- The values of a record's fields: by position in a list, which may stop before the last ones, or
under their keys in an object, each of which may occur once and may have other members around it. -/
inductive Value.Fields (keys : List String) : Value → List (Option Value) → Prop
  | positional (items : List Value) (missing : Nat) : items.length + missing = keys.length →
      Fields keys (.list items) (items.map some ++ List.replicate missing none)
  | keyed (members : List (String × Value)) (found : List (Option Value)) :
      keys.map (occurrences members) = found.map Option.toList → Fields keys (.object members) found

section Occurrences

variable {key : String} {value : Value} {members : List (String × Value)}

theorem occurrences_cons_self :
    occurrences ((key, value) :: members) key = value :: occurrences members key := by
  simp [occurrences]

theorem occurrences_cons_other {other : String} (different : other ≠ key) :
    occurrences ((key, value) :: members) other = occurrences members other := by
  simp [occurrences, Ne.symm different]

theorem occurrences_zip {keys : List String} {items : List Value} {missing : Nat}
    (distinct : keys.Nodup) (fits : items.length + missing = keys.length) :
    keys.map (occurrences (keys.zip items)) =
      (items.map some ++ List.replicate missing none).map Option.toList := by
  induction keys generalizing items with
  | nil =>
      have empty : items = [] := by
        apply List.eq_nil_of_length_eq_zero
        simp only [List.length_nil] at fits
        omega
      have none : missing = 0 := by
        simp only [List.length_nil] at fits
        omega
      simp [empty, none]
  | cons key keys ih =>
      obtain ⟨fresh, distinct⟩ := List.nodup_cons.mp distinct
      cases items with
      | nil =>
          have nothing : occurrences [] = Function.const String [] := rfl
          rw [List.length_nil, Nat.zero_add] at fits
          rw [List.zip_nil_right, nothing, List.map_const, fits, List.map_nil, List.nil_append,
            List.map_replicate]
          rfl
      | cons item items =>
          have shorter : items.length + missing = keys.length := by
            simp only [List.length_cons] at fits
            omega
          have absent : occurrences (keys.zip items) key = [] := by
            simp only [occurrences, List.map_eq_nil_iff, List.filter_eq_nil_iff, decide_eq_true_eq]
            rintro ⟨other, value⟩ member rfl
            exact fresh (List.of_mem_zip member).1
          have others : keys.map (occurrences ((key, item) :: keys.zip items)) =
              keys.map (occurrences (keys.zip items)) := by
            apply List.map_congr_left
            intro other member
            exact occurrences_cons_other fun same => fresh (same ▸ member)
          rw [List.zip_cons_cons, List.map_cons, others, ih distinct shorter, occurrences_cons_self,
            absent]
          rfl

end Occurrences

/-- A field of a record that is gathered in drafts `σ`, with what a value means to its reader. -/
structure Slot (σ : Type) where
  {Content : Type}
  name : String
  required : Bool
  reader : Reader Content
  means : Value → Content → Prop
  get : σ → Option Content
  set : σ → Content → σ

variable {σ : Type}

namespace Slot

def field (slot : Slot σ) : Field σ :=
  .ofReader slot.name slot.reader slot.required slot.get slot.set

/-- What a draft holds in the field comes from the value, if there is one. -/
def Holds (slot : Slot σ) (draft : σ) : Option Value → Prop
  | none => slot.get draft = none
  | some value => ∃ content, slot.means value content ∧ slot.get draft = some content

/-- The draft `result` comes from `draft` when the values are put into the field: nothing, or one value
into an empty field. -/
def Fits (slot : Slot σ) (draft : σ) (values : List Value) (result : σ) : Prop :=
  (values = [] ∧ slot.get result = slot.get draft) ∨
    (slot.get draft = none ∧
      ∃ value content, values = [value] ∧ slot.means value content ∧
        slot.get result = some content)

end Slot

/-- Fields that are told apart by their names and do not touch each other, and that a draft is made of
altogether. -/
structure Lawful (slots : List (Slot σ)) : Prop where
  names : (slots.map Slot.name).Nodup
  get_set : ∀ slot ∈ slots, ∀ draft content, slot.get (slot.set draft content) = some content
  apart : ∀ slot ∈ slots, ∀ other ∈ slots, slot.name ≠ other.name →
    ∀ draft content, other.get (slot.set draft content) = other.get draft
  ext : ∀ left right, (∀ slot ∈ slots, slot.get left = slot.get right) → left = right

/-- The draft `result` is gathered from the members, beginning with `draft`: those that name no field are
passed over, and none may name a field that is filled. -/
def Gathers (slots : List (Slot σ)) (result : σ) : σ → List (String × Value) → Prop
  | draft, [] => result = draft
  | draft, (key, value) :: members =>
    match slots.find? (·.name = key) with
    | none => Gathers slots result draft members
    | some slot => slot.get draft = none ∧
        ∃ content, slot.means value content ∧ Gathers slots result (slot.set draft content) members

section Gathering

variable {slots : List (Slot σ)} {slot : Slot σ} {draft result : σ} {value : Value}
  {members : List (String × Value)}

theorem Lawful.find?_name (lawful : Lawful slots) (member : slot ∈ slots) :
    slots.find? (·.name = slot.name) = some slot := by
  cases found : slots.find? (·.name = slot.name) with
  | none =>
      have different := List.find?_eq_none.mp found slot member
      simp at different
  | some other =>
      have same : other.name = slot.name := by simpa using List.find?_some found
      have listed := List.mem_of_find?_eq_some found
      rw [List.inj_on_of_nodup_map lawful.names listed member same]

theorem Lawful.gathers_field (lawful : Lawful slots) (member : slot ∈ slots) :
    Gathers slots result draft ((slot.name, value) :: members) ↔ slot.get draft = none ∧
      ∃ content, slot.means value content ∧ Gathers slots result (slot.set draft content) members := by
  rw [Gathers, lawful.find?_name member]

theorem Slot.fits_nil : slot.Fits draft [] result ↔ slot.get result = slot.get draft := by
  simp [Slot.Fits]

theorem Lawful.fits_self (lawful : Lawful slots) (member : slot ∈ slots) (content : slot.Content)
    (values : List Value) :
    slot.Fits (slot.set draft content) values result ↔
      values = [] ∧ slot.get result = some content := by
  simp [Slot.Fits, lawful.get_set slot member]

theorem Lawful.fits_other (lawful : Lawful slots) (member : slot ∈ slots) {other : Slot σ}
    (listed : other ∈ slots) (different : slot.name ≠ other.name) (content : slot.Content)
    (values : List Value) :
    other.Fits (slot.set draft content) values result ↔ other.Fits draft values result := by
  rw [Slot.Fits, lawful.apart slot member other listed different, Slot.Fits]

/-- A member goes into the field of its name, and the others fill the fields from there. -/
theorem Lawful.fits_cons (lawful : Lawful slots) (member : slot ∈ slots) :
    (∀ other ∈ slots,
        other.Fits draft (occurrences ((slot.name, value) :: members) other.name) result) ↔
      slot.get draft = none ∧ ∃ content, slot.means value content ∧
        ∀ other ∈ slots,
          other.Fits (slot.set draft content) (occurrences members other.name) result := by
  constructor
  · intro fits
    have own := fits slot member
    rw [occurrences_cons_self] at own
    rcases own with ⟨impossible, _⟩ | ⟨empty, only, content, alone, meant, filled⟩
    · cases impossible
    · obtain ⟨rfl, none⟩ := List.cons_eq_cons.mp alone
      refine ⟨empty, content, meant, fun other listed => ?_⟩
      by_cases same : slot.name = other.name
      · have equal := List.inj_on_of_nodup_map lawful.names member listed same
        subst equal
        exact (lawful.fits_self member content _).mpr ⟨none, filled⟩
      · have others := fits other listed
        rw [occurrences_cons_other (Ne.symm same)] at others
        exact (lawful.fits_other member listed same content _).mpr others
  · rintro ⟨empty, content, meant, fits⟩ other listed
    by_cases same : slot.name = other.name
    · have equal := List.inj_on_of_nodup_map lawful.names member listed same
      subst equal
      obtain ⟨none, filled⟩ := (lawful.fits_self member content _).mp (fits slot member)
      rw [occurrences_cons_self, none]
      exact Or.inr ⟨empty, value, content, rfl, meant, filled⟩
    · rw [occurrences_cons_other (Ne.symm same)]
      exact (lawful.fits_other member listed same content _).mp (fits other listed)

/-- Gathering the members one after the other fills each field as if it were the only one. -/
theorem Lawful.gathers_iff_fits (lawful : Lawful slots) :
    Gathers slots result draft members ↔
      ∀ slot ∈ slots, slot.Fits draft (occurrences members slot.name) result := by
  induction members generalizing draft with
  | nil =>
      have nothing (slot : Slot σ) : slot.Fits draft (occurrences [] slot.name) result ↔
          slot.get result = slot.get draft := Slot.fits_nil
      simp only [Gathers, nothing]
      constructor
      · rintro rfl slot _
        rfl
      · exact lawful.ext result draft
  | cons member members ih =>
      obtain ⟨key, value⟩ := member
      cases found : slots.find? (·.name = key) with
      | none =>
          rw [Gathers, found]
          dsimp only
          rw [ih]
          apply forall₂_congr
          intro slot member
          have other : slot.name ≠ key := by simpa using List.find?_eq_none.mp found slot member
          rw [occurrences_cons_other other]
      | some slot =>
          have named : slot.name = key := by simpa using List.find?_some found
          have member := List.mem_of_find?_eq_some found
          subst named
          rw [lawful.gathers_field member, lawful.fits_cons member]
          simp only [ih]

theorem Slot.fits_empty (empty : slot.get draft = none) (values : List Value) :
    slot.Fits draft values result ↔
      ∃ found : Option Value, values = found.toList ∧ slot.Holds result found := by
  rw [Slot.Fits, empty, and_iff_right rfl]
  constructor
  · rintro (⟨none, unfilled⟩ | ⟨value, content, one, meant, filled⟩)
    · exact ⟨Option.none, none, unfilled⟩
    · exact ⟨some value, one, content, meant, filled⟩
  · rintro ⟨found, same, holds⟩
    cases found with
    | none => exact Or.inl ⟨same, holds⟩
    | some value =>
        obtain ⟨content, meant, filled⟩ := holds
        exact Or.inr ⟨value, content, same, meant, filled⟩

theorem forall_fits_iff (empty : ∀ slot ∈ slots, slot.get draft = none) :
    (∀ slot ∈ slots, slot.Fits draft (occurrences members slot.name) result) ↔
      ∃ found : List (Option Value),
        (slots.map Slot.name).map (occurrences members) = found.map Option.toList ∧
          List.Forall₂ (fun slot value => slot.Holds result value) slots found := by
  induction slots with
  | nil => simp
  | cons slot slots ih =>
      rw [List.forall_mem_cons] at empty
      rw [List.forall_mem_cons, ih empty.2, Slot.fits_empty empty.1]
      constructor
      · rintro ⟨⟨first, same, holds⟩, found, others, all⟩
        exact ⟨first :: found, by simp only [List.map_cons, same, others], .cons holds all⟩
      · rintro ⟨found, same, all⟩
        cases all with
        | cons holds all =>
            simp only [List.map_cons, List.cons.injEq] at same
            exact ⟨⟨_, same.1, holds⟩, _, same.2, all⟩

/-- Gathering from a blank draft finds for each field the one value that there is under its name, or
none. -/
theorem Lawful.gathers_iff (lawful : Lawful slots) (empty : ∀ slot ∈ slots, slot.get draft = none) :
    Gathers slots result draft members ↔
      ∃ found, (Value.object members).Fields (slots.map Slot.name) found ∧
        List.Forall₂ (fun slot value => slot.Holds result value) slots found := by
  rw [lawful.gathers_iff_fits, forall_fits_iff empty]
  constructor
  · rintro ⟨found, same, all⟩
    exact ⟨found, .keyed members found same, all⟩
  · rintro ⟨found, fields, all⟩
    cases fields with
    | keyed _ _ same => exact ⟨found, same, all⟩

theorem toList_injective : Function.Injective (@Option.toList Value) := by
  intro left right same
  cases left <;> cases right <;> simp_all

/-- Reading a list by position comes to gathering members that have the names of the fields. -/
theorem Lawful.gathers_zip_iff (lawful : Lawful slots)
    (empty : ∀ slot ∈ slots, slot.get draft = none) (result : σ) (items : List Value) :
    (items.length ≤ slots.length ∧
      Gathers slots result draft ((slots.map Slot.name).zip items)) ↔
      ∃ found, (Value.list items).Fields (slots.map Slot.name) found ∧
        List.Forall₂ (fun slot value => slot.Holds result value) slots found := by
  rw [lawful.gathers_iff_fits, forall_fits_iff empty]
  constructor
  · rintro ⟨short, found, same, all⟩
    have fits : items.length + (slots.length - items.length) = (slots.map Slot.name).length := by
      rw [List.length_map]
      omega
    rw [occurrences_zip lawful.names fits] at same
    rw [← List.map_injective_iff.mpr toList_injective same] at all
    exact ⟨_, .positional items _ fits, all⟩
  · rintro ⟨found, fields, all⟩
    cases fields with
    | positional _ missing fits =>
        rw [List.length_map] at fits
        refine ⟨by omega, _, ?_, all⟩
        rw [occurrences_zip lawful.names (by rw [List.length_map, fits])]

end Gathering

end HeapGraph.Json
