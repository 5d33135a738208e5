import HeapGraph.Json.Cursor

/-!
Numbers of a JSON document.

A number without fraction and exponent is exact as far as 64 bits hold it. Every other number is a
double: its leading digits, as many as 64 bits hold, times a power of ten.
-/

namespace HeapGraph.Json

inductive Number where
  | natural (value : Nat)
  /-- The number `-value`. -/
  | negative (value : Nat)
  | decimal (value : Float)

def Number.found : Number → Found
  | natural value => .integer value
  | negative value => .integer (-value)
  | decimal value => .decimal value

def isDigit (byte : UInt8) : Bool := 0x30 ≤ byte && byte ≤ 0x39
def isExponentMark (byte : UInt8) : Bool := byte = 0x65 || byte = 0x45
def minus : UInt8 := 0x2D
def plus : UInt8 := 0x2B
def point : UInt8 := 0x2E

def digitValue (byte : UInt8) : Nat := byte.toNat - 0x30

def significandLimit : Nat := 0xFFFFFFFFFFFFFFFF

def exponentLimit : Nat := 0x7FFFFFFF

def negativeLimit : Nat := 0x8000000000000000

/-- Puts digits behind `value` as long as the number does not pass `limit`: the number, and how many
digits it took. -/
def absorb (limit : Nat) (value : Nat) : List UInt8 → Nat × Nat
  | [] => (value, 0)
  | byte :: rest =>
    let next := value * 10 + digitValue byte
    if isDigit byte && next ≤ limit then
      let more := absorb limit next rest
      (more.1, more.2 + 1)
    else (value, 0)

def Cursor.dropDigits (c : Cursor) : Cursor :=
  c.drop (c.rest.takeWhile isDigit).length

def Cursor.nextIs (c : Cursor) (test : UInt8 → Bool) : Bool :=
  c.rest.head?.any test

def divided (value : Float) (count : Nat) : Float :=
  if count ≤ 308 then value / Float.ofScientific 1 false count
  else if value == 0 then value
  else divided (value / Float.ofScientific 1 false 308) (count - 308)
termination_by count

def magnitude? (significand : Nat) (exponent : Int) : Option Float :=
  let value := significand.toUInt64.toFloat
  if exponent < 0 then some (divided value exponent.natAbs)
  else if exponent ≤ 308 then
    let product := value * Float.ofScientific 1 false exponent.toNat
    if product.isInf then none else some product
  else if value == 0 then some value
  else none

def signed (positive : Bool) (value : Float) : Number :=
  .decimal (if positive then value else -value)

def scaled (positive : Bool) (significand : Nat) (exponent : Int) (c : Cursor) :
    Except Fault (Number × Cursor) :=
  match magnitude? significand exponent with
  | some value => .ok (signed positive value, c)
  | none => .error (c.faultHere .numberTooLarge)

/-- An exponent that passes the limit, from its first digit too many on. -/
def readHugeExponent (positive zero positiveExponent : Bool) (c : Cursor) :
    Except Fault (Number × Cursor) :=
  let c := c.drop 1
  if !zero && positiveExponent then .error (c.faultHere .numberTooLarge)
  else .ok (signed positive 0, c.dropDigits.peek)

def readExponentDigits (positive : Bool) (significand : Nat) (exponent : Int)
    (positiveExponent : Bool) (c : Cursor) : Except Fault (Number × Cursor) :=
  match c.rest with
  | [] => .error (c.faultHere .endInValue)
  | byte :: rest =>
    if isDigit byte then
      let taken := absorb exponentLimit (digitValue byte) rest
      let c := c.drop (1 + taken.2)
      if c.nextIs isDigit then
        readHugeExponent positive (significand = 0) positiveExponent c
      else
        let change : Int := if positiveExponent then taken.1 else -taken.1
        scaled positive significand (exponent + change) c.peek
    else .error ((c.drop 1).faultHere .invalidNumber)

def readExponent (positive : Bool) (significand : Nat) (exponent : Int) (c : Cursor) :
    Except Fault (Number × Cursor) :=
  let c := (c.drop 1).peek
  if c.nextIs (· = plus) then readExponentDigits positive significand exponent true (c.drop 1)
  else if c.nextIs (· = minus) then
    readExponentDigits positive significand exponent false (c.drop 1)
  else readExponentDigits positive significand exponent true c

def readScale (positive : Bool) (significand : Nat) (exponent : Int) (c : Cursor) :
    Except Fault (Number × Cursor) :=
  if c.nextIs isExponentMark then readExponent positive significand exponent c
  else scaled positive significand exponent c

/-- A fraction, from its point on. Digits that the significand cannot hold are passed over. -/
def readFraction (positive : Bool) (significand : Nat) (exponent : Int) (c : Cursor) :
    Except Fault (Number × Cursor) :=
  let c := c.drop 1
  let taken := absorb significandLimit significand c.rest
  let c := (c.drop taken.2).peek
  if c.nextIs isDigit then
    readScale positive taken.1 (exponent - taken.2) c.dropDigits.peek
  else if taken.2 = 0 then
    .error (c.faultNext (if c.rest.isEmpty then .endInValue else .invalidNumber))
  else readScale positive taken.1 (exponent - taken.2) c

def readAfterWhole (positive : Bool) (significand : Nat) (c : Cursor) :
    Except Fault (Number × Cursor) :=
  if c.nextIs (· = point) then readFraction positive significand 0 c
  else if c.nextIs isExponentMark then readExponent positive significand 0 c
  else if positive then .ok (.natural significand, c)
  else if 0 < significand ∧ significand ≤ negativeLimit then .ok (.negative significand, c)
  else .ok (signed false significand.toUInt64.toFloat, c)

def readLong (positive : Bool) (significand : Nat) (c : Cursor) : Except Fault (Number × Cursor) :=
  let exponent : Int := (c.rest.takeWhile isDigit).length
  let c := c.dropDigits.peek
  if c.nextIs (· = point) then readFraction positive significand exponent c
  else readScale positive significand exponent c

def readUnsigned (positive : Bool) (c : Cursor) : Except Fault (Number × Cursor) :=
  match c.rest with
  | [] => .error (c.faultHere .endInValue)
  | byte :: rest =>
    if byte = 0x30 then
      let c := (c.drop 1).peek
      if c.nextIs isDigit then .error (c.faultNext .invalidNumber)
      else readAfterWhole positive 0 c
    else if isDigit byte then
      let taken := absorb significandLimit (digitValue byte) rest
      let c := (c.drop (1 + taken.2)).peek
      if c.nextIs isDigit then readLong positive taken.1 c
      else readAfterWhole positive taken.1 c
    else .error ((c.drop 1).faultHere .invalidNumber)

def startsNumber (byte : UInt8) : Bool :=
  byte = minus || isDigit byte

def readNumber (c : Cursor) : Except Fault (Number × Cursor) :=
  if c.nextIs (· = minus) then readUnsigned false (c.drop 1) else readUnsigned true c

section Lengths

variable {positive positiveExponent zero : Bool} {significand : Nat} {exponent : Int}
  {c c' : Cursor} {number : Number}

@[simp] theorem Cursor.dropDigits_length_le (c : Cursor) :
    c.dropDigits.rest.length ≤ c.rest.length := by
  simp [Cursor.dropDigits]

theorem scaled_eq (read : scaled positive significand exponent c = .ok (number, c')) : c' = c := by
  unfold scaled at read
  split at read
  · simp only [Except.ok.injEq, Prod.mk.injEq] at read
    exact read.2.symm
  · cases read

theorem readHugeExponent_length_le
    (read : readHugeExponent positive zero positiveExponent c = .ok (number, c')) :
    c'.rest.length ≤ c.rest.length := by
  unfold readHugeExponent at read
  dsimp only at read
  split at read
  · cases read
  · simp only [Except.ok.injEq, Prod.mk.injEq] at read
    have digits := (c.drop 1).dropDigits_length_le
    rw [← read.2]
    simp at digits ⊢
    omega

theorem readExponentDigits_length_le
    (read : readExponentDigits positive significand exponent positiveExponent c =
      .ok (number, c')) :
    c'.rest.length ≤ c.rest.length := by
  unfold readExponentDigits at read
  split at read
  · cases read
  · split at read
    · dsimp only at read
      split at read
      · have := readHugeExponent_length_le read
        simp at this
        omega
      · rw [scaled_eq read]
        simp
    · cases read

theorem readExponent_length_le
    (read : readExponent positive significand exponent c = .ok (number, c')) :
    c'.rest.length ≤ c.rest.length := by
  unfold readExponent at read
  dsimp only at read
  split at read
  · have := readExponentDigits_length_le read
    simp at this
    omega
  · split at read
    · have := readExponentDigits_length_le read
      simp at this
      omega
    · have := readExponentDigits_length_le read
      simp at this
      omega

theorem readScale_length_le
    (read : readScale positive significand exponent c = .ok (number, c')) :
    c'.rest.length ≤ c.rest.length := by
  unfold readScale at read
  split at read
  · exact readExponent_length_le read
  · exact Nat.le_of_eq (congrArg (·.rest.length) (scaled_eq read))

theorem readFraction_length_le
    (read : readFraction positive significand exponent c = .ok (number, c')) :
    c'.rest.length ≤ c.rest.length := by
  unfold readFraction at read
  dsimp only at read
  split at read
  · have scale := readScale_length_le read
    have digits := ((c.drop 1).drop
      (absorb significandLimit significand (c.drop 1).rest).2).peek.dropDigits_length_le
    simp at scale digits
    omega
  · split at read
    · cases read
    · have scale := readScale_length_le read
      simp at scale
      omega

theorem readAfterWhole_length_le
    (read : readAfterWhole positive significand c = .ok (number, c')) :
    c'.rest.length ≤ c.rest.length := by
  unfold readAfterWhole at read
  split at read
  · exact readFraction_length_le read
  · split at read
    · exact readExponent_length_le read
    · split at read
      · cases read; exact Nat.le_refl _
      · split at read
        · cases read; exact Nat.le_refl _
        · cases read; exact Nat.le_refl _

theorem readLong_length_le (read : readLong positive significand c = .ok (number, c')) :
    c'.rest.length ≤ c.rest.length := by
  have digits := c.dropDigits_length_le
  unfold readLong at read
  dsimp only at read
  split at read
  · have := readFraction_length_le read
    simp at this
    omega
  · have := readScale_length_le read
    simp at this
    omega

theorem readUnsigned_length_lt (read : readUnsigned positive c = .ok (number, c')) :
    c'.rest.length < c.rest.length := by
  unfold readUnsigned at read
  split at read
  · cases read
  · rename_i found
    split at read
    · dsimp only at read
      split at read
      · cases read
      · have := readAfterWhole_length_le read
        simp [found] at this ⊢
        omega
    · split at read
      · dsimp only at read
        split at read
        · have := readLong_length_le read
          simp [found] at this ⊢
          omega
        · have := readAfterWhole_length_le read
          simp [found] at this ⊢
          omega
      · cases read

theorem readNumber_length_lt (read : readNumber c = .ok (number, c')) :
    c'.rest.length < c.rest.length := by
  unfold readNumber at read
  split at read
  · have := readUnsigned_length_lt read
    simp at this
    omega
  · exact readUnsigned_length_lt read

end Lengths

end HeapGraph.Json
