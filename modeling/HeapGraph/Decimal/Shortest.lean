/-!
The decimal text of a double: the fewest digits that read back as the same double, and of those the
nearest to it.
-/

namespace HeapGraph.Decimal

/-- The reals that round to one double. The double is `value / scale`; it reaches down by
`below / scale` and up by `above / scale`, ends included when `closed`. -/
structure Neighbourhood where
  value : Nat
  below : Nat
  above : Nat
  scale : Nat
  closed : Bool

def leadingBit : Nat := 1 <<< 52

/-- The neighbourhood of the positive double `mantissa * 2 ^ (exponent - 1074)`. The gap below a
power of two is half the gap above it, but not where the smallest exponent ends the halving. -/
def neighbourhood (mantissa exponent : Nat) : Neighbourhood :=
  let up := 1 <<< (exponent + 2)
  let halved := mantissa = leadingBit ∧ 0 < exponent
  ⟨mantissa * up, if halved then up / 4 else up / 2, up / 2, 1 <<< 1076, mantissa % 2 = 0⟩

def Neighbourhood.contains (hood : Neighbourhood) (numerator denominator : Nat) : Bool :=
  let point := numerator * hood.scale
  let low := (hood.value - hood.below) * denominator
  let high := (hood.value + hood.above) * denominator
  if hood.closed then low ≤ point && point ≤ high else low < point && point < high

structure GridPoint where
  digits : Nat
  exponent : Int

def powerOfTen (exponent : Int) : Nat × Nat :=
  if 0 ≤ exponent then (Nat.pow 10 exponent.toNat, 1) else (1, Nat.pow 10 (-exponent).toNat)

def leadingExponent (value scale : Nat) : (fuel : Nat) → (guess : Int) → Int
  | 0, guess => guess
  | fuel + 1, guess =>
    let unit := powerOfTen guess
    if unit.1 * scale ≤ value * unit.2 then guess else leadingExponent value scale fuel (guess - 1)

/-- The point of the grid of step `10 ^ exponent` that lies in the neighbourhood, the nearer one if
both neighbours of the double do, and the even one of two that are equally near. -/
def onGrid (hood : Neighbourhood) (exponent : Int) : Option GridPoint :=
  let unit := powerOfTen exponent
  let floor := hood.value * unit.2 / (hood.scale * unit.1)
  let lower := hood.contains (floor * unit.1) unit.2
  let upper := hood.contains ((floor + 1) * unit.1) unit.2
  if lower && upper then
    let twice := 2 * hood.value * unit.2
    let middle := (2 * floor + 1) * (hood.scale * unit.1)
    if twice < middle then some ⟨floor, exponent⟩
    else if middle < twice then some ⟨floor + 1, exponent⟩
    else some ⟨if floor % 2 = 0 then floor else floor + 1, exponent⟩
  else if lower then some ⟨floor, exponent⟩
  else if upper then some ⟨floor + 1, exponent⟩
  else none

def firstGrid (hood : Neighbourhood) : (count : Nat) → (exponent : Int) → Option GridPoint
  | 0, _ => none
  | count + 1, exponent => (onGrid hood exponent).or (firstGrid hood count (exponent - 1))

/-- The shortest decimal that reads back as the positive double `mantissa * 2 ^ (exponent - 1074)`.
Seventeen digits always do. -/
def shortest (mantissa exponent : Nat) : GridPoint :=
  let hood := neighbourhood mantissa exponent
  let leading := leadingExponent hood.value hood.scale 700 310
  (firstGrid hood 18 leading).getD ⟨0, 0⟩

/-- Digits with a point: positional when the leading digit stands for `10 ^ -5` up to `10 ^ 15`, and
otherwise with one digit before the point and a signed exponent. -/
def pointed (digits : List Char) (leading : Int) : List Char :=
  if -5 ≤ leading ∧ leading < 0 then
    ['0', '.'] ++ List.replicate (-leading - 1).toNat '0' ++ digits
  else if 0 ≤ leading ∧ leading < 16 then
    let whole := leading.toNat + 1
    let fraction := digits.drop whole
    digits.take whole ++ List.replicate (whole - digits.length) '0' ++
      '.' :: (if fraction.isEmpty then ['0'] else fraction)
  else
    let fraction := digits.drop 1
    digits.take 1 ++ (if fraction.isEmpty then [] else '.' :: fraction) ++
      'e' :: (if leading < 0 then '-' else '+') :: Nat.toDigits 10 leading.natAbs

def dropZeros (digits : List Char) : List Char :=
  (digits.reverse.dropWhile (· = '0')).reverse

def text (value : Float) : String :=
  let bits := value.toBits.toNat
  let sign := if bits >>> 63 = 1 then ['-'] else []
  let exponent := (bits >>> 52) % 0x800
  let fraction := bits % leadingBit
  if exponent = 0 ∧ fraction = 0 then String.ofList (sign ++ ['0', '.', '0'])
  else
    let decimal :=
      if exponent = 0 then shortest fraction 0 else shortest (leadingBit + fraction) (exponent - 1)
    let digits := Nat.toDigits 10 decimal.digits
    let leading := decimal.exponent + (digits.length - 1 : Nat)
    String.ofList (sign ++ pointed (dropZeros digits) leading)

end HeapGraph.Decimal
