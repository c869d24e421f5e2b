import ServerOperator.Decimal.Shortest
import ServerOperator.Json
import ServerOperator.Text.Quoted

/-!
# Mismatches

Why a value is not what it should be. The text shows the value where that is a text or a number, since
this is all that is told of it.
-/

namespace ServerOperator

namespace Json

/-- A value in the text of a mismatch. -/
def summary : Json → String
  | null => "null"
  | bool b => "boolean `" ++ toString b ++ "`"
  | int n => "integer `" ++ toString n ++ "`"
  | decimal d => "floating point `" ++ (Decimal.ofFloat d.toFloat).scientific ++ "`"
  | string s => "string " ++ Text.quote s
  | array _ => "sequence"
  | object _ => "map"
  | unreadable => "unreadable value"

end Json

inductive Mismatch where
  | type (found : Json) (expected : String)
  /-- The type is right, but not the value. -/
  | value (found : Json) (expected : String)
  /-- A name that is none of those allowed. -/
  | name (found : String) (allowed : List String)
  /-- A list of fields with too many of them. -/
  | length (found : Nat)
  | missing (key : String)
  /-- A member that stands more than once in a record. -/
  | repeated (key : String)
  deriving Repr

namespace Mismatch

def message : Mismatch → String
  | type found expected => "invalid type: " ++ found.summary ++ ", expected " ++ expected
  | value found expected => "invalid value: " ++ found.summary ++ ", expected " ++ expected
  | name found allowed =>
    "unknown variant `" ++ found ++ "`, expected one of " ++
      String.intercalate ", " (allowed.map fun s => "`" ++ s ++ "`")
  | length found => "invalid length " ++ toString found
  | missing key => "missing field `" ++ key ++ "`"
  | repeated key => "duplicate field `" ++ key ++ "`"

end Mismatch

end ServerOperator
