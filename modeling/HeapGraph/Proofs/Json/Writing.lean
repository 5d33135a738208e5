import HeapGraph.Json.Written
import HeapGraph.Proofs.Json.Quoted

/-!
The compact written form is JSON: the written form of each value is one of the texts of that value.
-/

namespace HeapGraph.Json

def encode (chars : List Char) : List UInt8 :=
  chars.flatMap String.utf8EncodeChar

theorem encode_append (left right : List Char) : encode (left ++ right) = encode left ++ encode right :=
  List.flatMap_append

theorem encode_cons (c : Char) (chars : List Char) :
    encode (c :: chars) = String.utf8EncodeChar c ++ encode chars :=
  List.flatMap_cons

theorem utf8EncodeChar_ascii {c : Char} (small : c.toNat < 0x80) :
    String.utf8EncodeChar c = [ascii c] := by
  change c.val.toNat < 0x80 at small
  unfold String.utf8EncodeChar
  dsimp only
  rw [if_pos (by omega)]
  rfl

section Strings

theorem codeUnit_hexByte {value : Nat} (small : value < 0x20) :
    CodeUnit value (word "00" ++ encode (Text.hexByte (UInt8.ofNat value))) := by
  have digits : ∀ value < 0x20, encode (Text.hexByte (UInt8.ofNat value)) =
      [ascii (Nat.digitChar (value / 16)), ascii (Nat.digitChar (value % 16))] := by decide
  have unit : CodeUnit (((0 * 16 + 0) * 16 + value / 16) * 16 + value % 16) (word "00" ++
      [ascii (Nat.digitChar (value / 16)), ascii (Nat.digitChar (value % 16))]) :=
    .mk ⟨by decide, Or.inl rfl⟩ ⟨by decide, Or.inl rfl⟩ ⟨by omega, Or.inl rfl⟩
      ⟨by omega, Or.inl rfl⟩
  have same : ((0 * 16 + 0) * 16 + value / 16) * 16 + value % 16 = value := by omega
  rw [same] at unit
  rw [digits value small]
  exact unit

theorem letter_escapeChar (c : Char) : Letter c (encode (escapeChar c)) := by
  unfold escapeChar
  split
  next mark =>
    subst mark
    exact .short (by decide)
  split
  next slash =>
    subst slash
    exact .short (by decide)
  split
  next backspace =>
    subst backspace
    exact .short (by decide)
  split
  next feed =>
    subst feed
    exact .short (by decide)
  split
  next newline =>
    subst newline
    exact .short (by decide)
  split
  next carriage =>
    subst carriage
    exact .short (by decide)
  split
  next tab =>
    subst tab
    exact .short (by decide)
  split
  next control =>
    rw [encode_append]
    exact .unit (codeUnit_hexByte control)
  next mark slash _ _ _ _ _ printable =>
    have single : encode [c] = String.utf8EncodeChar c := List.append_nil _
    rw [single]
    exact .plain (Nat.le_of_not_lt printable) mark slash

theorem letters_escaped (chars : List Char) :
    Letters chars (encode (chars.flatMap escapeChar)) := by
  induction chars with
  | nil => exact .nil
  | cons c chars ih =>
      rw [List.flatMap_cons, encode_append]
      exact .cons (letter_escapeChar c) ih

theorem quoted_stringChars (text : String) : Quoted text (encode (stringChars text)) := by
  have mark : String.utf8EncodeChar '"' = [ascii '"'] := by decide
  rw [stringChars, List.cons_append, encode_cons, encode_append, encode_cons, mark]
  exact .mk (letters_escaped text.toList)

theorem written_stringChars (text : String) : Written (.string text) (encode (stringChars text)) :=
  .string (quoted_stringChars text)

end Strings

section Words

theorem written_boolChars (value : Bool) : Written (.boolean value) (encode (boolChars value)) := by
  cases value with
  | true => exact .boolean true
  | false => exact .boolean false

def Value.ofOption : Option String → Value
  | some text => .string text
  | none => .null

theorem written_optionChars (text : Option String) :
    Written (.ofOption text) (encode (optionChars text)) := by
  cases text with
  | none => exact .null
  | some text => exact written_stringChars text

end Words

section Numbers

theorem toDigits_lead {value : Nat} (lead : (Nat.toDigits 10 value).head? = some '0') : value = 0 := by
  induction value using Nat.strongRecOn with
  | ind value ih =>
      rw [Nat.toDigits_eq_if (by decide)] at lead
      split at lead
      next small =>
        have digits : ∀ value < 10, Nat.digitChar value = '0' → value = 0 := by decide
        exact digits value small (by simpa using lead)
      next large =>
        rw [List.head?_append_of_ne_nil _ Nat.toDigits_ne_nil] at lead
        have zero := ih (value / 10) (by omega) lead
        omega

theorem isDigit_range {c : Char} (digit : c.isDigit = true) : 0x30 ≤ c.toNat ∧ c.toNat ≤ 0x39 := by
  simp only [Char.isDigit, Bool.and_eq_true, decide_eq_true_eq] at digit
  exact ⟨UInt32.le_iff_toNat_le.mp digit.1, UInt32.le_iff_toNat_le.mp digit.2⟩

theorem ascii_toNat (c : Char) (small : c.toNat < 0x100) : (ascii c).toNat = c.toNat :=
  toNat_ofNat_of_lt small

theorem encode_digits {chars : List Char} (digits : ∀ c ∈ chars, c.isDigit = true) :
    encode chars = chars.map ascii := by
  induction chars with
  | nil => rfl
  | cons c chars ih =>
      have range := isDigit_range (digits c List.mem_cons_self)
      rw [encode_cons, utf8EncodeChar_ascii (by omega),
        ih fun other member => digits other (List.mem_cons_of_mem c member)]
      rfl

theorem foldl_digits {chars : List Char} (digits : ∀ c ∈ chars, c.isDigit = true) (value : Nat) :
    (chars.map ascii).foldl (fun value byte => value * 10 + (byte.toNat - (ascii '0').toNat)) value =
      Nat.ofDigitChars 10 chars value := by
  induction chars generalizing value with
  | nil => rfl
  | cons c chars ih =>
      have range := isDigit_range (digits c List.mem_cons_self)
      rw [List.map_cons, List.foldl_cons, Nat.ofDigitChars_cons, ascii_toNat c (by omega),
        Nat.mul_comm value 10]
      exact ih (fun other member => digits other (List.mem_cons_of_mem c member)) _

theorem isDigit_toDigits (value : Nat) : ∀ c ∈ Nat.toDigits 10 value, c.isDigit = true :=
  fun _ member => Nat.isDigit_of_mem_toDigits (by decide) (by decide) member

def Digits.ofNat (value : Nat) : Digits where
  bytes := (Nat.toDigits 10 value).map ascii
  nonempty := by simp
  decimal := by
    intro byte member
    obtain ⟨c, listed, rfl⟩ := List.mem_map.mp member
    have range := isDigit_range (isDigit_toDigits value c listed)
    rw [UInt8.le_iff_toNat_le, UInt8.le_iff_toNat_le, ascii_toNat c (by omega)]
    exact range

theorem Digits.value_ofNat (value : Nat) : (Digits.ofNat value).value = value := by
  rw [Digits.value, Digits.ofNat, foldl_digits (isDigit_toDigits value)]
  exact Nat.ofDigitChars_ten_toDigits

def Numeral.ofNat (value : Nat) : Numeral where
  negative := false
  whole := .ofNat value
  fraction := none
  exponent := none
  lead := by
    intro lead
    have zero : value = 0 := by
      apply toDigits_lead
      rw [Digits.ofNat, List.head?_map, Option.map_eq_some_iff] at lead
      obtain ⟨c, first, same⟩ := lead
      have range := isDigit_range (isDigit_toDigits value c (List.mem_of_head? first))
      have codes : c.toNat = '0'.toNat := by
        rw [← ascii_toNat c (by omega), same]
        rfl
      rw [first, Char.toNat_inj.mp codes]
    subst zero
    rfl

theorem written_toDigits (value : Nat) :
    Written (.number (.ofNat value)) (encode (Nat.toDigits 10 value)) := by
  have bytes : (Numeral.ofNat value).bytes = (Nat.toDigits 10 value).map ascii :=
    List.append_nil _
  rw [encode_digits (isDigit_toDigits value), ← bytes]
  exact .number _

end Numbers

section Brackets

variable {α : Type}

theorem encode_separated (part : List Char) (parts : List (List Char)) :
    encode (separated (part :: parts)) = encode part ++ behindCommas (parts.map encode) := by
  induction parts generalizing part with
  | nil => exact (List.append_nil _).symm
  | cons next parts ih =>
      have step : separated (part :: next :: parts) = part ++ ',' :: separated (next :: parts) := rfl
      rw [step, encode_append, encode_cons, ih, List.map_cons]
      rfl

def Item.bare (value : Value) (chars : List Char) : Item :=
  ⟨[], value, encode chars, []⟩

theorem Item.bytes_bare (value : Value) (chars : List Char) :
    (Item.bare value chars).bytes = encode chars :=
  List.append_nil _

theorem Item.spaced_bare (value : Value) (chars : List Char) : (Item.bare value chars).Spaced := by
  simp [Item.Spaced, Item.bare, Blanks]

theorem written_arrayChars (value : α → Value) (chars : α → List Char) (items : List α)
    (written : ∀ item ∈ items, Written (value item) (encode (chars item))) :
    Written (.list (items.map value)) (encode (arrayChars (items.map chars))) := by
  cases items with
  | nil => exact .emptyList (by simp [Blanks])
  | cons first more =>
      have list := Written.list (.bare (value first) (chars first))
        (more.map fun item => .bare (value item) (chars item))
        (by simp [Item.spaced_bare]) (by simpa [Item.bare] using written)
      simp only [List.map_cons, List.map_map, Function.comp_def, Item.bytes_bare] at list
      rw [arrayChars, List.cons_append, encode_cons, encode_append, List.map_cons, List.map_cons,
        encode_separated, List.append_assoc, List.map_map]
      exact list

def Member.bare (key : String) (value : Value) (chars : List Char) : Member :=
  ⟨[], key, encode (stringChars key), [], .bare value chars⟩

theorem Member.bytes_bare (key : String) (value : Value) (chars : List Char) :
    (Member.bare key value chars).bytes = encode (stringChars key ++ ':' :: chars) := by
  rw [encode_append, encode_cons, Member.bytes, Member.bare, Item.bytes_bare]
  rfl

theorem Member.spaced_bare (key : String) (value : Value) (chars : List Char) :
    (Member.bare key value chars).Spaced := by
  simp [Member.Spaced, Member.bare, Blanks, Item.spaced_bare, quoted_stringChars]

theorem written_objectChars (members : List (String × Value × List Char))
    (written : ∀ member ∈ members, Written member.2.1 (encode member.2.2)) :
    Written (.object (members.map fun member => (member.1, member.2.1)))
      (encode (objectChars (members.map fun member => (member.1, member.2.2)))) := by
  cases members with
  | nil => exact .emptyObject (by simp [Blanks])
  | cons first more =>
      rw [List.forall_mem_cons] at written
      have object := Written.object (.bare first.1 first.2.1 first.2.2)
        (more.map fun member => .bare member.1 member.2.1 member.2.2)
        (by
          rw [List.forall_mem_cons, List.forall_mem_map]
          exact ⟨Member.spaced_bare _ _ _, fun _ _ => Member.spaced_bare _ _ _⟩)
        (by
          rw [List.forall_mem_cons, List.forall_mem_map]
          exact written)
      simp only [List.map_cons, List.map_map, Function.comp_def, Member.bytes_bare] at object
      rw [objectChars, List.cons_append, encode_cons, encode_append, List.map_cons, List.map_cons,
        List.map_cons, encode_separated, List.append_assoc, List.map_map, List.map_map]
      exact object

end Brackets

end HeapGraph.Json
