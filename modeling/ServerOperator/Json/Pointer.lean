import ServerOperator.Json

/-!
# JSON pointers

The part of a value that a path of RFC 6901 names: members by name, array items by index.
-/

namespace ServerOperator.Json

/-- The pieces of a list between separators. -/
def splitAt (separator : Char) : List Char → List (List Char)
  | [] => [[]]
  | c :: cs =>
    if c = separator then [] :: splitAt separator cs
    else
      match splitAt separator cs with
      | [] => [[c]]
      | piece :: pieces => (c :: piece) :: pieces

/-- In a path `~1` stands for a slash and `~0` for a tilde. -/
def unescapeStep : List Char → List Char
  | '~' :: '1' :: cs => '/' :: unescapeStep cs
  | '~' :: '0' :: cs => '~' :: unescapeStep cs
  | c :: cs => c :: unescapeStep cs
  | [] => []

/-- An array index has no sign and no leading zero. -/
def index? (step : List Char) : Option Nat :=
  match step with
  | ['0'] => some 0
  | '0' :: _ => none
  | [] => none
  | digits => if digits.all Char.isDigit then (String.ofList digits).toNat? else none

def descend? (v : Json) (step : List Char) : Option Json :=
  match v with
  | object fields => Fields.find? fields (String.ofList (unescapeStep step))
  | array items => (index? step).bind fun i => items[i]?
  | _ => none

/-- The value at a path; the empty path names the whole value, any other starts with a slash. -/
def at? (v : Json) (path : String) : Option Json :=
  match path.toList with
  | [] => some v
  | '/' :: cs => (splitAt '/' cs).foldlM descend? v
  | _ => none

end ServerOperator.Json
