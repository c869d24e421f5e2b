import ServerOperator.Text.Blank
import ServerOperator.Text.DecimalDigit

/-!
# Resource quantities

Amounts of CPU or memory: an unsigned decimal number, perhaps after a plus sign, with an optional
suffix for its scale.
-/

namespace ServerOperator

/-- What a suffix multiplies the number by. -/
inductive Scale where
  /-- `10 ^ power` -/
  | si (power : Int)
  /-- `1024 ^ power` -/
  | binary (power : Nat)
  /-- Ten to the power written in these digits, or its reciprocal. -/
  | exponent (negative : Bool) (digits : List Char)
  deriving DecidableEq, Repr

/-- A quantity by the digits before and after its point. -/
structure Quantity where
  whole : List Char
  fraction : List Char
  scale : Scale
  deriving DecidableEq, Repr

namespace Quantity

open Text (isDecimalDigit trim)

/-- The scales that have a name. -/
def namedScales : List (List Char × Scale) :=
  [([], .si 0), (['n'], .si (-9)), (['u'], .si (-6)), (['m'], .si (-3)), (['k'], .si 3), (['M'], .si 6),
   (['G'], .si 9), (['T'], .si 12), (['P'], .si 15), (['E'], .si 18), (['K', 'i'], .binary 1),
   (['M', 'i'], .binary 2), (['G', 'i'], .binary 3), (['T', 'i'], .binary 4), (['P', 'i'], .binary 5),
   (['E', 'i'], .binary 6)]

/-- The power of ten after an `e` or `E`: an optional sign and digits. -/
def exponent? (cs : List Char) : Option Scale :=
  let (negative, digits) :=
    match cs with
    | '+' :: ds => (false, ds)
    | '-' :: ds => (true, ds)
    | ds => (false, ds)
  if digits.isEmpty || !digits.all isDecimalDigit then none else some (.exponent negative digits)

def scale? (suffix : List Char) : Option Scale :=
  match namedScales.lookup suffix with
  | some s => some s
  | none =>
    match suffix with
    | 'e' :: cs | 'E' :: cs => exponent? cs
    | _ => none

/-- The text after an optional plus sign. -/
def unsigned : List Char → List Char
  | '+' :: cs => cs
  | cs => cs

/-- The digits after a point, if one follows, and what comes then. -/
def pointDigits : List Char → List Char × List Char
  | '.' :: cs => (cs.takeWhile isDecimalDigit, cs.dropWhile isDecimalDigit)
  | cs => ([], cs)

def ofChars? (cs : List Char) : Option Quantity :=
  let number := unsigned cs
  let whole := number.takeWhile isDecimalDigit
  let (fraction, suffix) := pointDigits (number.dropWhile isDecimalDigit)
  if whole.isEmpty && fraction.isEmpty then none else (scale? suffix).map fun s => ⟨whole, fraction, s⟩

/-- White space around a quantity is ignored. -/
def parse? (text : String) : Option Quantity :=
  ofChars? (trim text).toList

def isValid (text : String) : Bool :=
  (parse? text).isSome

end Quantity

end ServerOperator
