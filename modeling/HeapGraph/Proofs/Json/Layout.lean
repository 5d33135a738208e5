import HeapGraph.Json.Reader
import HeapGraph.Proofs.Json.Grammar
import Mathlib.Data.List.TakeWhile

/-!
Where the texts of values begin and end: blanks before a value are passed over, the first byte of a
value tells its kind, and what stands behind a value cannot be taken for a part of it.
-/

namespace HeapGraph.Json

def Ends (rest : List UInt8) : Prop :=
  ∀ byte ∈ rest.head?, byte ∈ word " \t\n\r,]\x7d"

def Value.Begins (value : Value) (byte : UInt8) : Prop :=
  match value with
  | .null => byte = ascii 'n'
  | .boolean true => byte = ascii 't'
  | .boolean false => byte = ascii 'f'
  | .number _ => byte = ascii '-' ∨ (ascii '0' ≤ byte ∧ byte ≤ ascii '9')
  | .string _ => byte = ascii '"'
  | .list _ => byte = ascii '['
  | .object _ => byte = ascii '\x7b'

theorem isBlank_iff {byte : UInt8} : Cursor.isBlank byte = true ↔ byte ∈ word " \t\n\r" := by
  have listed : word " \t\n\r" = [0x20, 0x09, 0x0A, 0x0D] := rfl
  simp only [Cursor.isBlank, listed, Bool.or_eq_true, decide_eq_true_eq, List.mem_cons,
    List.not_mem_nil, or_false]
  tauto

section Cursors

variable {c : Cursor} {before rest : List UInt8} {byte : UInt8}

theorem dropWhile_blanks (blanks : Blanks before) (rest : List UInt8) :
    (before ++ rest).dropWhile Cursor.isBlank = rest.dropWhile Cursor.isBlank :=
  List.dropWhile_append_of_pos fun byte member => isBlank_iff.mpr (blanks byte member)

theorem skipBlanks_of (blanks : Blanks before) (solid : byte ∉ word " \t\n\r")
    (found : c.rest = before ++ byte :: rest) : c.skipBlanks.rest = byte :: rest := by
  have stops : ¬Cursor.isBlank byte = true := fun blank => solid (isBlank_iff.mp blank)
  rw [Cursor.skipBlanks_rest, found, dropWhile_blanks blanks, List.dropWhile_cons_of_neg stops]

theorem skipBlanks_all (blanks : Blanks before) (found : c.rest = before) :
    c.skipBlanks.rest = [] := by
  rw [Cursor.skipBlanks_rest, found, ← List.append_nil before, dropWhile_blanks blanks]
  rfl

theorem skipBlanks_isEmpty_iff : c.skipBlanks.rest.isEmpty = true ↔ Blanks c.rest := by
  rw [List.isEmpty_iff, Cursor.skipBlanks_rest, List.dropWhile_eq_nil_iff]
  simp only [isBlank_iff, Blanks]

theorem blanks_nil : Blanks [] := by
  simp [Blanks]

theorem blanks_singleton (blank : byte ∈ word " \t\n\r") : Blanks [byte] :=
  List.forall_mem_singleton.mpr blank

theorem ends_nil : Ends [] := by
  simp [Ends]

theorem ends_cons (closes : byte ∈ word " \t\n\r,]\x7d") : Ends (byte :: rest) := by
  intro first same
  rw [List.head?_cons, Option.mem_some_iff] at same
  rwa [← same]

theorem Blanks.ends_append (blanks : Blanks before) (ends : Ends rest) : Ends (before ++ rest) := by
  cases before with
  | nil => exact ends
  | cons byte before =>
      exact ends_cons (List.mem_append_left (word ",]\x7d") (blanks byte List.mem_cons_self))

theorem Ends.nextIs (ends : Ends c.rest) (test : UInt8 → Bool)
    (apart : (word " \t\n\r,]\x7d").all (!test ·) = true) : c.nextIs test = false := by
  unfold Cursor.nextIs
  cases found : c.rest.head? with
  | none => rfl
  | some byte => simpa using List.all_eq_true.mp apart byte (ends byte found)

end Cursors

section First

variable {value : Value} {text : List UInt8} {byte : UInt8}

theorem Digits.begins (digits : Digits) :
    ∃ byte tail, digits.bytes = byte :: tail ∧ ascii '0' ≤ byte ∧ byte ≤ ascii '9' := by
  obtain ⟨byte, tail, same⟩ := List.exists_cons_of_ne_nil digits.nonempty
  exact ⟨byte, tail, same, digits.decimal byte (by simp [same])⟩

theorem Written.begins (written : Written value text) :
    ∃ byte tail, text = byte :: tail ∧ value.Begins byte := by
  cases written with
  | null => exact ⟨_, _, rfl, rfl⟩
  | boolean value => cases value <;> exact ⟨_, _, rfl, rfl⟩
  | number numeral =>
      obtain ⟨byte, tail, same, digit⟩ := numeral.whole.begins
      cases sign : numeral.negative with
      | true => exact ⟨ascii '-', _, by rw [Numeral.bytes, Numeral.sign, sign]; rfl, Or.inl rfl⟩
      | false =>
          exact ⟨byte, _, by rw [Numeral.bytes, Numeral.sign, sign, same]; rfl, Or.inr digit⟩
  | string quoted =>
      cases quoted
      exact ⟨_, _, rfl, rfl⟩
  | emptyList => exact ⟨_, _, rfl, rfl⟩
  | list => exact ⟨_, _, rfl, rfl⟩
  | emptyObject => exact ⟨_, _, rfl, rfl⟩
  | object => exact ⟨_, _, rfl, rfl⟩

/-- No value begins with a byte that is none of these. -/
theorem Value.Begins.not_mem (begins : value.Begins byte) {others : List UInt8}
    (apart : others.all (fun other =>
      other ∉ word "-ntf\"[\x7b" ∧ ¬(ascii '0' ≤ other ∧ other ≤ ascii '9')) = true) :
    byte ∉ others := by
  intro member
  obtain ⟨letter, digit⟩ := of_decide_eq_true (List.all_eq_true.mp apart byte member)
  cases value with
  | null => exact letter (by rw [show byte = ascii 'n' from begins]; decide)
  | boolean value =>
      cases value with
      | true => exact letter (by rw [show byte = ascii 't' from begins]; decide)
      | false => exact letter (by rw [show byte = ascii 'f' from begins]; decide)
  | number =>
      rcases begins with rfl | inside
      · exact letter (by decide)
      · exact digit inside
  | string => exact letter (by rw [show byte = ascii '"' from begins]; decide)
  | list => exact letter (by rw [show byte = ascii '[' from begins]; decide)
  | object => exact letter (by rw [show byte = ascii '\x7b' from begins]; decide)

theorem Value.Begins.solid (begins : value.Begins byte) : byte ∉ word " \t\n\r,]\x7d:" :=
  begins.not_mem (by decide)

end First

end HeapGraph.Json
