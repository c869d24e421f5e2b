/-!
# Timestamps

Moments after the start of 1970, and the last of them that has a date.
-/

namespace ServerOperator

structure Timestamp where
  secs : Nat
  nanos : Nat := 0
  deriving DecidableEq, Repr, Inhabited

namespace Timestamp

/-- The last second of the year 262142, the last year there are dates for. -/
def lastSecond : Nat := 8210266876799

/-- The longest span that can be added, in seconds: its milliseconds fill 63 bits. -/
def longestSpan : Nat := (UInt64.size / 2 - 1) / 1000

/-- The moment `delay` seconds later, if there is one. -/
def later? (t : Timestamp) (delay : UInt64) : Option Timestamp :=
  if delay.toNat ≤ longestSpan ∧ t.secs + delay.toNat ≤ lastSecond then
    some { t with secs := t.secs + delay.toNat }
  else none

end Timestamp

end ServerOperator
