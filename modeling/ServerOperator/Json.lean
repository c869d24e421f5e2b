import ServerOperator.Decimal
import ServerOperator.SortedMap

/-!
# JSON values

Values as exchanged with an API server. Integers are kept apart from numbers written with a fraction,
an exponent or a signed zero: no integer field accepts the latter. An object keeps its members as they
are written, also when several have one name; what counts then is up to the reader.
-/

namespace ServerOperator

inductive Json where
  | null
  | bool (value : Bool)
  | int (value : Int)
  | decimal (value : Decimal)
  | string (value : String)
  | array (items : List Json)
  | object (fields : List (String × Json))
  /-- What is written by the rules but stands for no value: a text with half of a surrogate pair, a number
  that no double can hold, and an object with such a text for a name. -/
  | unreadable
  deriving Repr, Inhabited

namespace Json

/-- The members of an object, in the order written. -/
abbrev Fields := List (String × Json)

/-! ## Equality -/

mutual

/-- Whether two values are the same, decided along their structure so that it computes. -/
def beq : Json → Json → Bool
  | null, null => true
  | bool a, bool b => a == b
  | int a, int b => a == b
  | decimal a, decimal b => a == b
  | string a, string b => a == b
  | array a, array b => beqItems a b
  | object a, object b => beqFields a b
  | unreadable, unreadable => true
  | _, _ => false

def beqItems : List Json → List Json → Bool
  | [], [] => true
  | v :: a, w :: b => beq v w && beqItems a b
  | _, _ => false

def beqFields : List (String × Json) → List (String × Json) → Bool
  | [], [] => true
  | (key, v) :: a, (key', w) :: b => key == key' && beq v w && beqFields a b
  | _, _ => false

end

mutual

theorem beq_iff (v w : Json) : beq v w = true ↔ v = w := by
  cases v <;> cases w <;> simp [beq, beqItems_iff, beqFields_iff]

theorem beqItems_iff (a b : List Json) : beqItems a b = true ↔ a = b := by
  match a, b with
  | [], [] | [], _ :: _ | _ :: _, [] => simp [beqItems]
  | v :: a, w :: b => simp [beqItems, beq_iff v w, beqItems_iff a b]

theorem beqFields_iff (a b : List (String × Json)) : beqFields a b = true ↔ a = b := by
  match a, b with
  | [], [] | [], _ :: _ | _ :: _, [] => simp [beqFields]
  | (key, v) :: a, (key', w) :: b => simp [beqFields, beq_iff v w, beqFields_iff a b]

end

instance : DecidableEq Json := fun v w => decidable_of_decidable_of_iff (beq_iff v w)

/-! ## Views -/

def fields? : Json → Option Fields
  | object fields => some fields
  | _ => none

def items? : Json → Option (List Json)
  | array items => some items
  | _ => none

def text? : Json → Option String
  | string s => some s
  | _ => none

def bool? : Json → Option Bool
  | bool b => some b
  | _ => none

def int? : Json → Option Int
  | int n => some n
  | _ => none

def int32? (v : Json) : Option Int32 := do
  let n ← v.int?
  if Int32.minValue.toInt ≤ n && n ≤ Int32.maxValue.toInt then some (Int32.ofInt n) else none

def int64? (v : Json) : Option Int64 := do
  let n ← v.int?
  if Int64.minValue.toInt ≤ n && n ≤ Int64.maxValue.toInt then some (Int64.ofInt n) else none

/-- A natural number below `bound`. -/
def natBelow? (bound : Nat) (v : Json) : Option Nat := do
  let n ← v.int?
  if 0 ≤ n && n.toNat < bound then some n.toNat else none

def uint16? (v : Json) : Option UInt16 :=
  (v.natBelow? UInt16.size).map UInt16.ofNat

def uint64? (v : Json) : Option UInt64 :=
  (v.natBelow? UInt64.size).map UInt64.ofNat

def list? {α : Type} (read : Json → Option α) (v : Json) : Option (List α) := do
  (← v.items?).mapM read

def map? {α : Type} (read : Json → Option α) (v : Json) : Option (SortedMap α) := do
  let entries ← (← v.fields?).mapM fun (key, value) => return (key, ← read value)
  return SortedMap.ofList entries

/-! ## Members of an object -/

namespace Fields

def find? (o : Fields) (key : String) : Option Json :=
  SortedMap.find? key o

/-- Set a member, in its place if it is there already and at the end otherwise. -/
def set (key : String) (value : Json) : Fields → Fields
  | [] => [(key, value)]
  | (k, v) :: rest => if k = key then (key, value) :: rest else (k, v) :: set key value rest

def remove (key : String) (o : Fields) : Fields :=
  o.filter (·.1 ≠ key)

end Fields

/-- The text that stands under a path of names. -/
def textAt? (v : Json) (path : List String) : Option String := do
  (← path.foldlM (fun v key => v.fields?.bind (Fields.find? · key)) v).text?

/-! ## Building -/

def ofInt32 (n : Int32) : Json := int n.toInt
def ofInt64 (n : Int64) : Json := int n.toInt
def ofNat (n : Nat) : Json := int n
def ofList {α : Type} (write : α → Json) (l : List α) : Json := array (l.map write)
def ofMap {α : Type} (write : α → Json) (m : SortedMap α) : Json :=
  object (m.entries.map fun e => (e.1, write e.2))
def ofOption {α : Type} (write : α → Json) : Option α → Json
  | none => null
  | some a => write a

/-- A member that is written only when it has a value. -/
def member {α : Type} (key : String) (write : α → Json) : Option α → Fields
  | none => []
  | some a => [(key, write a)]

end Json

end ServerOperator
