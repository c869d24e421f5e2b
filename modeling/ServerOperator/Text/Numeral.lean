import ServerOperator.Text.DecimalDigit

/-!
# Numerals

Whole numbers in settings and on the command line: a sign, which may be left out, and ASCII digits. A
numeral is read from the left, and the first character that cannot be part of it decides.
-/

namespace ServerOperator.Text

inductive NumeralError where
  | empty
  | invalidDigit
  | tooLarge
  | tooSmall
  deriving DecidableEq, Repr

def NumeralError.message : NumeralError → String
  | empty => "cannot parse integer from empty string"
  | invalidDigit => "invalid digit found in string"
  | tooLarge => "number too large to fit in target type"
  | tooSmall => "number too small to fit in target type"

/-- Read digits on from a value; no value on the way may exceed `limit`. -/
def readDigits (limit : Nat) (beyond : NumeralError) : Nat → List Char → Except NumeralError Nat
  | value, [] => .ok value
  | value, c :: cs =>
    if isAsciiDigit c then
      let value := value * 10 + (c.toNat - '0'.toNat)
      if value ≤ limit then readDigits limit beyond value cs else .error beyond
    else .error .invalidDigit

/-- The digits of a numeral: at least one. -/
def readMagnitude (limit : Nat) (beyond : NumeralError) (cs : List Char) : Except NumeralError Nat :=
  if cs.isEmpty then .error .invalidDigit else readDigits limit beyond 0 cs

/-- A number from zero to `limit`; only a plus is taken as its sign. -/
def readUnsigned (limit : Nat) (s : String) : Except NumeralError Nat :=
  match s.toList with
  | [] => .error .empty
  | '+' :: cs => readMagnitude limit .tooLarge cs
  | cs => readMagnitude limit .tooLarge cs

/-- A number that fits in 64 bits with its sign. -/
def readSigned (s : String) : Except NumeralError Int :=
  match s.toList with
  | [] => .error .empty
  | '+' :: cs => (readMagnitude (UInt64.size / 2 - 1) .tooLarge cs).map Int.ofNat
  | '-' :: cs => (readMagnitude (UInt64.size / 2) .tooSmall cs).map fun n => -Int.ofNat n
  | cs => (readMagnitude (UInt64.size / 2 - 1) .tooLarge cs).map Int.ofNat

end ServerOperator.Text
