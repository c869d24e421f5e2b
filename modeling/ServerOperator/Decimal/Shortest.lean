import ServerOperator.Decimal

/-!
# Shortest decimals

The shortest decimal number that is read back as a given double, and of those the nearest one. All
distances are exact: they are counted in a unit so small that every bound of a double and every step of
a decimal grid is a whole number of units.
-/

namespace ServerOperator.Decimal

/-- A positive double as `mantissa * 2 ^ (shift - 1074)`. -/
structure Binary where
  mantissa : Nat
  shift : Nat
  /-- Whether the next smaller double is only half as far away as the next greater one. -/
  leastOfBinade : Bool
  deriving DecidableEq, Repr

/-- The magnitude in the 63 low bits of a finite double. -/
def Binary.ofBits (bits : Nat) : Binary :=
  let fraction := bits % Nat.pow 2 52
  let exponent := bits / Nat.pow 2 52 % 2048
  if exponent = 0 then ⟨fraction, 0, false⟩
  else ⟨fraction + Nat.pow 2 52, exponent - 1, fraction = 0 && 1 < exponent⟩

namespace Binary

/-- The lowest power of ten whose grid is looked at. -/
def lowestPower : Int := -340

/-- A quarter of the distance to the next greater double, in units of `10 ^ -340 * 2 ^ -736`. -/
def quarter (b : Binary) : Nat := Nat.pow 5 340 * Nat.pow 2 b.shift

def value (b : Binary) : Nat := 4 * b.mantissa * b.quarter

/-- The least and the greatest number that round to the double; with an even mantissa they do so too. -/
def bounds (b : Binary) : Nat × Nat :=
  (b.value - (if b.leastOfBinade then 1 else 2) * b.quarter, b.value + 2 * b.quarter)

def reads (b : Binary) (n : Nat) : Bool :=
  let (low, high) := b.bounds
  if b.mantissa % 2 = 0 then low ≤ n && n ≤ high else low < n && n < high

/-- The step of the grid of `10 ^ power`, in units. -/
def step (power : Int) : Nat := Nat.pow 10 (power - lowestPower).toNat * Nat.pow 2 736

/-- The power of the leading digit. -/
def leadingPower (b : Binary) : Int :=
  (Nat.toDigits 10 (b.value / Nat.pow 2 736)).length - 1 + lowestPower

/-- The nearest number of a grid that is read back, if there is one; of two equally near the greater. -/
def nearest? (b : Binary) (power : Int) : Option Nat :=
  let grid := step power
  let below := b.value / grid
  let belowReads := b.reads (below * grid)
  let aboveReads := b.reads ((below + 1) * grid)
  if belowReads && (!aboveReads || 2 * (b.value - below * grid) < grid) then some below
  else if aboveReads then some (below + 1)
  else none

/-- Try finer and finer grids. The first is the one above the leading digit, whose numbers also have one
digit only; with seventeen digits there is always a hit. -/
def shortest (b : Binary) : Nat × Int :=
  let powers : List Int := (List.range 18).map fun (n : Nat) => b.leadingPower + 1 - n
  (powers.findSome? fun power => (b.nearest? power).map (·, power)).getD (0, 0)

end Binary

/-- The shortest decimal of a finite double. -/
def ofFloat (x : Float) : Decimal :=
  let bits := x.toBits.toNat
  let magnitude := Binary.ofBits (bits % Nat.pow 2 63)
  let (digits, exponent) := if magnitude.mantissa = 0 then (0, 0) else magnitude.shortest
  ⟨Nat.pow 2 63 ≤ bits, digits, exponent⟩

/-- The number without an exponent: all digits of its whole part, and of its fraction up to the last. -/
def positional (d : Decimal) : String :=
  let digits := Nat.toDigits 10 d.digits
  let text :=
    if 0 ≤ d.exponent then
      digits ++ (if d.digits = 0 then [] else List.replicate d.exponent.toNat '0')
    else
      let places := d.exponent.natAbs
      let padded := List.replicate (places + 1 - digits.length) '0' ++ digits
      padded.take (padded.length - places) ++ '.' :: padded.drop (padded.length - places)
  String.ofList (if d.negative then '-' :: text else text)

/-- The number with at least one place after the point, or with an exponent when it is below `10 ^ -5` or
not below `10 ^ 16`. -/
def scientific (d : Decimal) : String :=
  if d.digits = 0 then d.positional ++ ".0"
  else if -5 < d.order && d.order ≤ 16 then
    if 0 ≤ d.exponent then d.positional ++ ".0" else d.positional
  else
    let mantissa : Decimal := ⟨d.negative, d.digits, d.exponent + 1 - d.order⟩
    mantissa.positional ++ "e" ++ toString (d.order - 1)

end ServerOperator.Decimal
