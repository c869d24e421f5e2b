import ServerOperator.Duration

/-!
# Backoff

Delays between attempts that keep failing. Each is the sum of the two before it, from a least delay up
to a greatest one.
-/

namespace ServerOperator

structure Backoff where
  min : UInt64
  max : UInt64
  previous : UInt64
  current : UInt64
  deriving DecidableEq, Repr

namespace Backoff

/-- The sum, or the greatest number if the sum is beyond it. -/
def saturatingAdd (a b : UInt64) : UInt64 :=
  if a.toNat + b.toNat < UInt64.size then a + b else UInt64.ofNat (UInt64.size - 1)

/-- A least delay above the greatest is taken down to it. -/
def start (min max : UInt64) : Backoff :=
  let min := Min.min min max
  { min, max, previous := 0, current := min }

/-- The next delay in seconds. -/
def next (b : Backoff) : UInt64 × Backoff :=
  (b.current,
   { b with previous := b.current, current := Min.min (saturatingAdd b.previous b.current) b.max })

/-- The next delay as a duration. -/
def nextDuration (b : Backoff) : Duration × Backoff :=
  (.ofSecs b.next.1, b.next.2)

/-- The next `n` delays. -/
def upcoming (b : Backoff) : Nat → List UInt64
  | 0 => []
  | n + 1 => b.next.1 :: b.next.2.upcoming n

def reset (b : Backoff) : Backoff := { b with previous := 0, current := b.min }

end Backoff

end ServerOperator
