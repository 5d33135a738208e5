/-!
Text as bytes: UTF-8 of a text, the text of bytes that are UTF-8, and a reading of any bytes that
puts a replacement character for what is not UTF-8.
-/

namespace HeapGraph.Text

def utf8 (text : String) : List UInt8 :=
  text.toByteArray.data.toList

def ofUtf8? (bytes : List UInt8) : Option String :=
  String.fromUTF8? bytes.toByteArray

theorem ofUtf8?_utf8 (text : String) : ofUtf8? (utf8 text) = some text := by
  have same : (utf8 text).toByteArray = text.toByteArray := by
    ext1
    simp [utf8]
  simp [ofUtf8?, same, String.fromUTF8?, String.fromUTF8, text.isValidUTF8]

theorem utf8_of_ofUtf8? {bytes : List UInt8} {text : String} (read : ofUtf8? bytes = some text) :
    utf8 text = bytes := by
  unfold ofUtf8? String.fromUTF8? at read
  split at read
  · cases read
    simp [utf8, String.fromUTF8]
  · cases read

/-- A character whose first bytes have been met: the bits they carry, the number of bytes still
owed, and the range in which the next one has to lie. -/
structure Unfinished where
  bits : Nat
  owed : Nat
  low : Nat
  high : Nat

inductive Progress where
  | finished (char : Char)
  | unfinished (begun : Unfinished)
  | broken

def openCharacter (byte : Nat) : Progress :=
  if byte < 0x80 then .finished (Char.ofNat byte)
  else if 0xC2 ≤ byte ∧ byte ≤ 0xDF then .unfinished ⟨byte - 0xC0, 1, 0x80, 0xBF⟩
  else if byte = 0xE0 then .unfinished ⟨0, 2, 0xA0, 0xBF⟩
  else if byte = 0xED then .unfinished ⟨0xD, 2, 0x80, 0x9F⟩
  else if 0xE1 ≤ byte ∧ byte ≤ 0xEF then .unfinished ⟨byte - 0xE0, 2, 0x80, 0xBF⟩
  else if byte = 0xF0 then .unfinished ⟨0, 3, 0x90, 0xBF⟩
  else if 0xF1 ≤ byte ∧ byte ≤ 0xF3 then .unfinished ⟨byte - 0xF0, 3, 0x80, 0xBF⟩
  else if byte = 0xF4 then .unfinished ⟨4, 3, 0x80, 0x8F⟩
  else .broken

def Unfinished.next (begun : Unfinished) (byte : Nat) : Progress :=
  if begun.low ≤ byte ∧ byte ≤ begun.high then
    let bits := begun.bits * 64 + (byte - 0x80)
    if begun.owed = 1 then .finished (Char.ofNat bits)
    else .unfinished ⟨bits, begun.owed - 1, 0x80, 0xBF⟩
  else .broken

def replacement : Char := Char.ofNat 0xFFFD

def lossyOpen (byte : Nat) : List Char × Option Unfinished :=
  match openCharacter byte with
  | .finished char => ([char], none)
  | .unfinished begun => ([], some begun)
  | .broken => ([replacement], none)

/-- The characters of a byte, and the one it leaves unfinished. A byte that cannot go on with an
unfinished character gives that up and is read afresh. -/
def lossyNext (begun : Option Unfinished) (byte : Nat) : List Char × Option Unfinished :=
  match begun with
  | none => lossyOpen byte
  | some begun =>
    match begun.next byte with
    | .finished char => ([char], none)
    | .unfinished begun => ([], some begun)
    | .broken => (replacement :: (lossyOpen byte).1, (lossyOpen byte).2)

def lossyChars (begun : Option Unfinished) : List UInt8 → List Char
  | [] => if begun.isSome then [replacement] else []
  | byte :: rest =>
    let next := lossyNext begun byte.toNat
    next.1 ++ lossyChars next.2 rest

/-- The text of `bytes`, with one replacement character for each longest part that begins a
character without finishing it, and for each byte that begins none. -/
def ofUtf8Lossy (bytes : List UInt8) : String :=
  String.ofList (lossyChars none bytes)

/-- How many of the first bytes make up whole characters; `taken` bytes before them belong to the
character that is begun. -/
def wholeLength (begun : Option Unfinished) (taken : Nat) : List UInt8 → Nat
  | [] => 0
  | byte :: rest =>
    match begun.elim (openCharacter byte.toNat) (·.next byte.toNat) with
    | .finished _ => taken + 1 + wholeLength none 0 rest
    | .unfinished begun => wholeLength (some begun) (taken + 1) rest
    | .broken => 0

def utf8PrefixLength (bytes : List UInt8) : Nat :=
  wholeLength none 0 bytes

end HeapGraph.Text
