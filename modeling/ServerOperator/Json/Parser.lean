import ServerOperator.Json

/-!
# Reading JSON text

One value of RFC 8259 with nothing but white space around it. Each step takes what it reads from the
start of the text and returns it with the rest. As written, a value may be of any depth and
keeps all members of its objects; where a value of moderate depth is wanted, the last of equal members
counts, and no part may be unreadable.
-/

namespace ServerOperator.Json

/-- Why a text is not the text of a value. -/
inductive ParseError where
  /-- The text ends too early. -/
  | ended
  | malformed
  deriving DecidableEq, Repr

def isJsonSpace (c : Char) : Bool :=
  c == ' ' || c == '\n' || c == '\r' || c == '\t'

def skipSpace (cs : List Char) : List Char :=
  cs.dropWhile isJsonSpace

/-- What follows `word`, which has to stand at the start of the text. -/
def strip : List Char → List Char → Except ParseError (List Char)
  | [], cs => .ok cs
  | _ :: _, [] => .error .ended
  | w :: ws, c :: cs => if w = c then strip ws cs else .error .malformed

/-! ## Numbers -/

def digitValue (c : Char) : Nat := c.toNat - 48

def natOfDigits (cs : List Char) : Nat :=
  cs.foldl (fun n c => 10 * n + digitValue c) 0

/-- At least one digit, as many as there are. -/
def digits (cs : List Char) : Except ParseError (List Char × List Char) :=
  match cs.takeWhile Char.isDigit, cs with
  | [], [] => .error .ended
  | [], _ :: _ => .error .malformed
  | ds, cs => .ok (ds, cs.dropWhile Char.isDigit)

def fraction : List Char → Except ParseError (List Char × List Char)
  | '.' :: cs => digits cs
  | cs => .ok ([], cs)

def exponentDigits : List Char → Except ParseError (Int × List Char)
  | '+' :: cs => do let (ds, rest) ← digits cs; return (natOfDigits ds, rest)
  | '-' :: cs => do let (ds, rest) ← digits cs; return (-(natOfDigits ds), rest)
  | cs => do let (ds, rest) ← digits cs; return (natOfDigits ds, rest)

def exponent : List Char → Except ParseError (Option Int × List Char)
  | 'e' :: cs | 'E' :: cs => do let (e, rest) ← exponentDigits cs; return (some e, rest)
  | cs => .ok (none, cs)

/-- An integer literal that 64 bits can hold is an integer; any other number is a decimal. -/
def ofLiteral (negative : Bool) (whole fraction : List Char) (exponent : Option Int) : Json :=
  let n := natOfDigits whole
  if fraction.isEmpty && exponent.isNone && !negative && n < UInt64.size then int n
  else if fraction.isEmpty && exponent.isNone && negative && 0 < n && n ≤ UInt64.size / 2 then int (-n)
  else
    let d : Decimal := ⟨negative, natOfDigits (whole ++ fraction), exponent.getD 0 - fraction.length⟩
    if d.fitsDouble then decimal d else unreadable

def unsigned (negative : Bool) (cs : List Char) : Except ParseError (Json × List Char) := do
  let (whole, rest) ← digits cs
  if whole.head? = some '0' && whole.length ≠ 1 then throw .malformed
  let (fraction, rest) ← fraction rest
  let (exponent, rest) ← exponent rest
  return (ofLiteral negative whole fraction exponent, rest)

def number : List Char → Except ParseError (Json × List Char)
  | '-' :: cs => unsigned true cs
  | cs => unsigned false cs

/-! ## Strings -/

def hexDigit (c : Char) : Except ParseError Nat :=
  if c.isDigit then .ok (digitValue c)
  else if 'a' ≤ c ∧ c ≤ 'f' then .ok (c.toNat - 87)
  else if 'A' ≤ c ∧ c ≤ 'F' then .ok (c.toNat - 55)
  else .error .malformed

/-- A code unit of four hexadecimal digits. -/
def unit : List Char → Except ParseError (Nat × List Char)
  | a :: b :: c :: d :: rest => do
    return ((((← hexDigit a) * 16 + (← hexDigit b)) * 16 + (← hexDigit c)) * 16 + (← hexDigit d), rest)
  | _ => .error .ended

/-- The second half of a surrogate pair, if it stands here. -/
def lowSurrogate? : List Char → Except ParseError (Option Nat × List Char)
  | '\\' :: 'u' :: cs => do
    let (low, rest) ← unit cs
    return if 0xDC00 ≤ low && low ≤ 0xDFFF then (some low, rest) else (none, '\\' :: 'u' :: cs)
  | cs => .ok (none, cs)

/-- The character of a code unit or of a pair of surrogates; half of a pair is none. -/
def escapedUnit (cs : List Char) : Except ParseError (Option Char × List Char) := do
  let (high, rest) ← unit cs
  if high < 0xD800 || 0xDFFF < high then return (some (Char.ofNat high), rest)
  if 0xDBFF < high then return (none, rest)
  let (low?, rest) ← lowSurrogate? rest
  return (low?.map fun low => Char.ofNat (0x10000 + (high - 0xD800) * 0x400 + (low - 0xDC00)), rest)

def escaped : List Char → Except ParseError (Option Char × List Char)
  | [] => .error .ended
  | '"' :: cs => .ok (some '"', cs)
  | '\\' :: cs => .ok (some '\\', cs)
  | '/' :: cs => .ok (some '/', cs)
  | 'b' :: cs => .ok (some '\x08', cs)
  | 'f' :: cs => .ok (some '\x0c', cs)
  | 'n' :: cs => .ok (some '\n', cs)
  | 'r' :: cs => .ok (some '\r', cs)
  | 't' :: cs => .ok (some '\t', cs)
  | 'u' :: cs => escapedUnit cs
  | _ :: _ => .error .malformed

/-- The text up to the closing quote, after the characters in `read`, the latest first; no text if half
of a surrogate pair is in it. Each member of `bound` allows one step. -/
def stringRest : (bound : List Char) → (read : Option (List Char)) → List Char →
    Except ParseError (Option String × List Char)
  | [], _, _ | _, _, [] => .error .ended
  | _ :: _, read, '"' :: cs => .ok (read.map fun read => String.ofList read.reverse, cs)
  | _ :: bound, read, '\\' :: cs =>
    match escaped cs with
    | .error e => .error e
    | .ok (some c, rest) => stringRest bound (read.map (c :: ·)) rest
    | .ok (none, rest) => stringRest bound none rest
  | _ :: bound, read, c :: cs =>
    if c.toNat < 0x20 then .error .malformed else stringRest bound (read.map (c :: ·)) cs

/-- A string after its opening quote. There are no more steps than characters. -/
def stringFrom (cs : List Char) : Except ParseError (Option String × List Char) :=
  stringRest cs (some []) cs

/-! ## Values -/

/-- A value that holds no others. -/
def scalar : List Char → Except ParseError (Json × List Char)
  | '"' :: cs => do
    let (s, rest) ← stringFrom cs
    return (s.elim unreadable string, rest)
  | 'n' :: cs => do return (null, ← strip ['u', 'l', 'l'] cs)
  | 't' :: cs => do return (bool true, ← strip ['r', 'u', 'e'] cs)
  | 'f' :: cs => do return (bool false, ← strip ['a', 'l', 's', 'e'] cs)
  | cs => number cs

/-- The name of a member and the colon after it. -/
def memberName (cs : List Char) : Except ParseError (Option String × List Char) := do
  let (key, rest) ← stringFrom (← strip ['"'] (skipSpace cs))
  return (key, ← strip [':'] (skipSpace rest))

/-- An array or object that is not closed yet, with what it holds so far, the latest first. An object with
an unreadable name has no members to tell of. -/
inductive Frame where
  | items (read : List Json)
  | members (read : Option Fields) (key : Option String)

/-- The members with one more. -/
def addMember (read : Option Fields) (key : Option String) (v : Json) : Option Fields := do
  return (← key, v) :: (← read)

def closeObject (read : Option Fields) : Json :=
  read.elim unreadable fun fields => object fields.reverse

/-- Go on with the text inside the open frames, the innermost first. A value either was just read, or is
what comes next. -/
def continueWith : Nat → List Frame → Option Json → List Char → Except ParseError Json
  | 0, _, _, _ => .error .ended
  | fuel + 1, frames, none, cs =>
    match skipSpace cs with
    | [] => .error .ended
    | '[' :: cs =>
      match skipSpace cs with
      | ']' :: cs => continueWith fuel frames (some (array [])) cs
      | cs => continueWith fuel (.items [] :: frames) none cs
    | '\x7b' :: cs =>
      match skipSpace cs with
      | '\x7d' :: cs => continueWith fuel frames (some (object [])) cs
      | cs =>
        match memberName cs with
        | .error e => .error e
        | .ok (key, cs) => continueWith fuel (.members (some []) key :: frames) none cs
    | cs =>
      match scalar cs with
      | .error e => .error e
      | .ok (v, cs) => continueWith fuel frames (some v) cs
  | _ + 1, [], some v, cs => if (skipSpace cs).isEmpty then .ok v else .error .malformed
  | fuel + 1, .items read :: frames, some v, cs =>
    match skipSpace cs with
    | [] => .error .ended
    | ',' :: cs => continueWith fuel (.items (v :: read) :: frames) none cs
    | ']' :: cs => continueWith fuel frames (some (array (v :: read).reverse)) cs
    | _ => .error .malformed
  | fuel + 1, .members read key :: frames, some v, cs =>
    match skipSpace cs with
    | [] => .error .ended
    | ',' :: cs =>
      match memberName cs with
      | .error e => .error e
      | .ok (next, cs) => continueWith fuel (.members (addMember read key v) next :: frames) none cs
    | '\x7d' :: cs => continueWith fuel frames (some (closeObject (addMember read key v))) cs
    | _ => .error .malformed

/-- The value that a text writes, as it is written. -/
def ofText (text : String) : Except ParseError Json :=
  continueWith (2 * text.length + 2) [] none text.toList

/-! ## Settled values -/

/-- How many arrays and objects may stand inside each other. -/
def nestingLimit : Nat := 127

/-- Put a member before others, unless one of them has its name. -/
def consMember (key : String) (v : Json) (fields : Fields) : Fields :=
  if fields.any (·.1 == key) then fields else (key, v) :: fields

mutual

/-- The value with the last only of equal members, if all of it is readable and not too deep. -/
def settle? : Nat → Json → Option Json
  | _, unreadable => none
  | 0, array _ | 0, object _ => none
  | depth + 1, array items => (settleItems? depth items).map array
  | depth + 1, object fields => (settleFields? depth fields).map object
  | _, v => some v

def settleItems? (depth : Nat) : List Json → Option (List Json)
  | [] => some []
  | v :: vs => do return (← settle? depth v) :: (← settleItems? depth vs)

def settleFields? (depth : Nat) : List (String × Json) → Option Fields
  | [] => some []
  | (key, v) :: rest => do return consMember key (← settle? depth v) (← settleFields? depth rest)

end

/-- The settled value that a text writes. -/
def parse? (text : String) : Option Json :=
  match ofText text with
  | .ok v => settle? nestingLimit v
  | .error _ => none

end ServerOperator.Json
