import Mathlib.Data.List.Basic

/-!
JSON texts: the values there are, and which bytes are a text of which value. Blanks may stand around
every value and every key, objects keep their members in the order and as often as they are written,
and numbers are kept as they are written.
-/

namespace HeapGraph.Json

def ascii (c : Char) : UInt8 :=
  UInt8.ofNat c.toNat

def word (text : String) : List UInt8 :=
  text.toList.map ascii

def Blanks (bytes : List UInt8) : Prop :=
  ∀ byte ∈ bytes, byte ∈ word " \t\n\r"

structure Digits where
  bytes : List UInt8
  nonempty : bytes ≠ []
  decimal : ∀ byte ∈ bytes, ascii '0' ≤ byte ∧ byte ≤ ascii '9'

def Digits.value (digits : Digits) : Nat :=
  digits.bytes.foldl (fun value byte => value * 10 + (byte.toNat - (ascii '0').toNat)) 0

structure Exponent where
  mark : UInt8
  sign : List UInt8
  digits : Digits
  marked : mark ∈ word "eE"
  signed : sign = [] ∨ sign = word "+" ∨ sign = word "-"

def Exponent.bytes (exponent : Exponent) : List UInt8 :=
  exponent.mark :: exponent.sign ++ exponent.digits.bytes

structure Numeral where
  negative : Bool
  whole : Digits
  fraction : Option Digits
  exponent : Option Exponent
  /-- No other digit follows a leading zero. -/
  lead : whole.bytes.head? = some (ascii '0') → whole.bytes = word "0"

namespace Numeral

def sign (numeral : Numeral) : List UInt8 :=
  if numeral.negative then word "-" else []

def fractionBytes (numeral : Numeral) : List UInt8 :=
  match numeral.fraction with
  | some digits => ascii '.' :: digits.bytes
  | none => []

def exponentBytes (numeral : Numeral) : List UInt8 :=
  match numeral.exponent with
  | some exponent => exponent.bytes
  | none => []

def bytes (numeral : Numeral) : List UInt8 :=
  numeral.sign ++ (numeral.whole.bytes ++ (numeral.fractionBytes ++ numeral.exponentBytes))

end Numeral

inductive Value where
  | null
  | boolean (value : Bool)
  | number (numeral : Numeral)
  | string (text : String)
  | list (items : List Value)
  | object (members : List (String × Value))

def HexDigit (value : Nat) (byte : UInt8) : Prop :=
  value < 16 ∧ (byte = ascii (Nat.digitChar value) ∨ byte = ascii (Nat.digitChar value).toUpper)

inductive CodeUnit : Nat → List UInt8 → Prop
  | mk {p q r s : Nat} {first second third last : UInt8} : HexDigit p first → HexDigit q second →
      HexDigit r third → HexDigit s last →
      CodeUnit (((p * 16 + q) * 16 + r) * 16 + s) [first, second, third, last]

/-- The letters that stand for a character behind a backslash. -/
def shortEscapes : List (Char × Char) :=
  [('"', '"'), ('\\', '\\'), ('/', '/'), ('b', '\x08'), ('f', '\x0c'), ('n', '\n'), ('r', '\r'),
    ('t', '\t')]

/-- The ways to write a character of a string: as it is in UTF-8, by a letter, by its code unit, or by
the two code units of a surrogate pair. -/
inductive Letter : Char → List UInt8 → Prop
  | plain {c : Char} : 0x20 ≤ c.toNat → c ≠ '"' → c ≠ '\\' → Letter c (String.utf8EncodeChar c)
  | short {letter c : Char} : (letter, c) ∈ shortEscapes → Letter c [ascii '\\', ascii letter]
  | unit {c : Char} {digits : List UInt8} : CodeUnit c.toNat digits →
      Letter c (word "\\u" ++ digits)
  | pair {c : Char} {high low : Nat} {highDigits lowDigits : List UInt8} :
      CodeUnit high highDigits → CodeUnit low lowDigits → 0xD800 ≤ high → high ≤ 0xDBFF →
      0xDC00 ≤ low → low ≤ 0xDFFF →
      c.toNat = 0x10000 + (high - 0xD800) * 0x400 + (low - 0xDC00) →
      Letter c (word "\\u" ++ (highDigits ++ (word "\\u" ++ lowDigits)))

inductive Letters : List Char → List UInt8 → Prop
  | nil : Letters [] []
  | cons {c : Char} {chars : List Char} {bytes more : List UInt8} : Letter c bytes →
      Letters chars more → Letters (c :: chars) (bytes ++ more)

inductive Quoted : String → List UInt8 → Prop
  | mk {text : String} {bytes : List UInt8} : Letters text.toList bytes →
      Quoted text (ascii '"' :: (bytes ++ [ascii '"']))

structure Item where
  before : List UInt8
  value : Value
  text : List UInt8
  after : List UInt8

namespace Item

def bytes (item : Item) : List UInt8 :=
  item.before ++ (item.text ++ item.after)

def Spaced (item : Item) : Prop :=
  Blanks item.before ∧ Blanks item.after

end Item

structure Member where
  before : List UInt8
  key : String
  quoted : List UInt8
  between : List UInt8
  item : Item

namespace Member

/-- What stands from the key on to the next comma or bracket. -/
def bytes (entry : Member) : List UInt8 :=
  entry.before ++ (entry.quoted ++ (entry.between ++ ascii ':' :: entry.item.bytes))

def Spaced (entry : Member) : Prop :=
  Blanks entry.before ∧ Quoted entry.key entry.quoted ∧ Blanks entry.between ∧ entry.item.Spaced

def pair (entry : Member) : String × Value :=
  (entry.key, entry.item.value)

end Member

def behindCommas (parts : List (List UInt8)) : List UInt8 :=
  parts.flatMap fun part => ascii ',' :: part

inductive Written : Value → List UInt8 → Prop
  | null : Written .null (word "null")
  | boolean (value : Bool) : Written (.boolean value) (word (if value then "true" else "false"))
  | number (numeral : Numeral) : Written (.number numeral) numeral.bytes
  | string {text : String} {bytes : List UInt8} : Quoted text bytes → Written (.string text) bytes
  | emptyList {blanks : List UInt8} : Blanks blanks →
      Written (.list []) (ascii '[' :: (blanks ++ word "]"))
  | list (first : Item) (more : List Item) : (∀ item ∈ first :: more, item.Spaced) →
      (∀ item ∈ first :: more, Written item.value item.text) →
      Written (.list ((first :: more).map Item.value))
        (ascii '[' :: (first.bytes ++ (behindCommas (more.map Item.bytes) ++ word "]")))
  | emptyObject {blanks : List UInt8} : Blanks blanks →
      Written (.object []) (ascii '\x7b' :: (blanks ++ word "\x7d"))
  | object (first : Member) (more : List Member) : (∀ entry ∈ first :: more, entry.Spaced) →
      (∀ entry ∈ first :: more, Written entry.item.value entry.item.text) →
      Written (.object ((first :: more).map Member.pair))
        (ascii '\x7b' :: (first.bytes ++ (behindCommas (more.map Member.bytes) ++ word "\x7d")))

/-- The bytes are a text of the value, with blanks before and behind it. -/
inductive Document : Value → List UInt8 → Prop
  | mk (item : Item) : item.Spaced → Written item.value item.text → Document item.value item.bytes

end HeapGraph.Json
