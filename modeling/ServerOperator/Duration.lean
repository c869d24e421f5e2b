/-!
# Durations
-/

namespace ServerOperator

/-- Whole seconds and the nanoseconds beyond them. -/
structure Duration where
  secs : UInt64
  nanos : Nat := 0
  deriving DecidableEq, Repr, Inhabited

namespace Duration

def ofSecs (n : UInt64) : Duration := ⟨n, 0⟩

def ofMillis (n : UInt64) : Duration := ⟨n / 1000, (n % 1000).toNat * 1000000⟩

def toMillis (d : Duration) : Nat := d.secs.toNat * 1000 + d.nanos / 1000000

end Duration

end ServerOperator
