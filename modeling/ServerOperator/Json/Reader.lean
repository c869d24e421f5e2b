import ServerOperator.Json.Mismatch

/-!
# Reading values

A value is read as what it should be, or does not match. Of several members with one name the last
counts, but all of them have to match. A record is stricter: each of its fields stands once at most.
-/

namespace ServerOperator.Json

/-! ## Values -/

/-- Read by a view of values. -/
def expect {α : Type} (expected : String) (view : Json → Option α) (v : Json) : Except Mismatch α :=
  match view v with
  | some a => .ok a
  | none => .error (.type v expected)

def asText (v : Json) : Except Mismatch String := expect "a text" text? v

def asBool (v : Json) : Except Mismatch Bool := expect "a boolean" bool? v

def asItems (v : Json) : Except Mismatch (List Json) := expect "a list" items? v

def asFields (v : Json) : Except Mismatch Fields := expect "an object" fields? v

/-- An integer of a width. -/
def asInteger {α : Type} (expected : String) (view : Json → Option α) (v : Json) : Except Mismatch α :=
  match view v with
  | some n => .ok n
  | none => .error (if v.int?.isSome then .value v expected else .type v expected)

def asInt32 (v : Json) : Except Mismatch Int32 := asInteger "a 32-bit integer" int32? v

def asInt64 (v : Json) : Except Mismatch Int64 := asInteger "a 64-bit integer" int64? v

def asUInt16 (v : Json) : Except Mismatch UInt16 := asInteger "an unsigned 16-bit integer" uint16? v

def asList {α : Type} (read : Json → Except Mismatch α) (v : Json) : Except Mismatch (List α) := do
  (← asItems v).mapM read

def asMap {α : Type} (read : Json → Except Mismatch α) (v : Json) : Except Mismatch (SortedMap α) := do
  let entries ← (← asFields v).mapM fun (key, value) => return (key, ← read value)
  return SortedMap.ofList entries

/-- A value, or `null` for none. -/
def asOption {α : Type} (read : Json → Except Mismatch α) : Json → Except Mismatch (Option α)
  | null => .ok none
  | v => (read v).map some

/-! ## Members of an object -/

/-- What was read of a member that has to be there. -/
def present {α : Type} (key : String) : Option α → Except Mismatch α
  | some a => .ok a
  | none => .error (.missing key)

namespace Fields

/-- The values of all members with a name. -/
def values (o : Fields) (key : String) : List Json :=
  (o.filter (·.1 = key)).map (·.2)

/-- A member that may be missing. -/
def member? {α : Type} (o : Fields) (key : String) (read : Json → Except Mismatch α) :
    Except Mismatch (Option α) :=
  (o.values key).foldlM (fun _ v => (read v).map some) none

/-- A member that may be missing; `null` counts as missing. -/
def optional {α : Type} (o : Fields) (key : String) (read : Json → Except Mismatch α) :
    Except Mismatch (Option α) :=
  (o.member? key (asOption read)).map (·.join)

/-- A member that has to be there. -/
def required {α : Type} (o : Fields) (key : String) (read : Json → Except Mismatch α) :
    Except Mismatch α := do
  present key (← o.member? key read)

/-- A member with a value of its own when missing; `null` is not taken for missing. -/
def defaulted {α : Type} (o : Fields) (key : String) (read : Json → Except Mismatch α) (default : α) :
    Except Mismatch α :=
  (o.member? key read).map (·.getD default)

/-- A member that takes a default when missing or `null`. -/
def filled {α : Type} (o : Fields) (key : String) (read : Json → Except Mismatch α) (default : α) :
    Except Mismatch α :=
  (o.optional key read).map (·.getD default)

/-- Each of the names stands once at most. -/
def distinct (o : Fields) : List String → Except Mismatch Unit
  | [] => .ok ()
  | key :: rest => if 1 < (o.values key).length then .error (.repeated key) else o.distinct rest

end Fields

/-- The members of a record given as an object, or as an array of its fields in the order of `names`,
the last of which may be missing. -/
def asRecord (names : List String) : Json → Except Mismatch Fields
  | object fields => do Fields.distinct fields names; return fields
  | array items =>
    if items.length ≤ names.length then .ok (names.zip items) else .error (.length items.length)
  | v => .error (.type v "a record")

end ServerOperator.Json
