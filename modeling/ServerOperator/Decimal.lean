/-!
# Decimal numbers

Numbers as written, with a sign that also a zero can carry, and the doubles read from them.
-/

namespace ServerOperator

/-- The number `digits * 10 ^ exponent`, or its negative. -/
structure Decimal where
  negative : Bool
  digits : Nat
  exponent : Int
  deriving DecidableEq, Repr, Inhabited

namespace Decimal

/-- The number is below `10 ^ order` and, unless it is zero, at least `10 ^ (order - 1)`. -/
def order (d : Decimal) : Int :=
  (Nat.toDigits 10 d.digits).length + d.exponent

/-! ## Doubles -/

/-- The leading digits, as many as 64 bits can hold, and the power of ten that goes with them. -/
def leading (d : Decimal) : UInt64 × Int :=
  let rec go : Nat → Nat → Int → UInt64 × Int
    | 0, n, e => (.ofNat n, e)
    | fuel + 1, n, e => if n < UInt64.size then (.ofNat n, e) else go fuel (n / 10) (e + 1)
  go (Nat.toDigits 10 d.digits).length d.digits d.exponent

/-- The double nearest to a power of ten; infinity from 309 on. -/
def powerOfTen (n : Nat) : Float := Float.ofScientific 1 false (min n 309)

/-- A positive double times a power of ten, in steps that a double can hold. -/
def scale : (steps : Nat) → Float → Int → Float
  | 0, _, _ => 0
  | steps + 1, x, e =>
    if 0 ≤ e then x * powerOfTen e.toNat
    else if -308 ≤ e then x / powerOfTen e.natAbs
    else scale steps (x / powerOfTen 308) (e + 308)

/-- The double read from the number: the one nearest to its leading digits, scaled by their power of ten. It
is the nearest double where both are exact, as they are up to 15 digits and a power of 22. -/
def toFloat (d : Decimal) : Float :=
  let (digits, exponent) := d.leading
  let magnitude := if digits = 0 then 0 else scale 4 digits.toFloat exponent
  if d.negative then -magnitude else magnitude

/-- Whether a double can hold the number. -/
def fitsDouble (d : Decimal) : Bool := d.toFloat.isFinite

end Decimal

end ServerOperator
