import ServerOperator.Decimal.Shortest
import ServerOperator.Json

/-!
# Writing JSON text

The compact form: no white space, members in the order they have. A decimal number is
written as its double is, in the fewest digits. What is unreadable is written as `null`.
-/

namespace ServerOperator.Json

/-- Quotes, backslashes and controls are escaped, all else stands as it is. -/
def writeChar (c : Char) : List Char :=
  if c = '"' then ['\\', '"']
  else if c = '\\' then ['\\', '\\']
  else if c = '\n' then ['\\', 'n']
  else if c = '\r' then ['\\', 'r']
  else if c = '\t' then ['\\', 't']
  else if c = '\x08' then ['\\', 'b']
  else if c = '\x0c' then ['\\', 'f']
  else if c.toNat < 0x20 then
    ['\\', 'u', '0', '0', Nat.digitChar (c.toNat / 16), Nat.digitChar (c.toNat % 16)]
  else [c]

def writeString (s : String) : String :=
  String.ofList ('"' :: s.toList.flatMap writeChar ++ ['"'])

mutual

def render : Json → String
  | null => "null"
  | bool true => "true"
  | bool false => "false"
  | int n => toString n
  | decimal d => (Decimal.ofFloat d.toFloat).scientific
  | string s => writeString s
  | unreadable => "null"
  | array items => "[" ++ String.intercalate "," (renderItems items) ++ "]"
  | object fields => "\x7b" ++ String.intercalate "," (renderFields fields) ++ "\x7d"

def renderItems : List Json → List String
  | [] => []
  | v :: vs => render v :: renderItems vs

def renderFields : List (String × Json) → List String
  | [] => []
  | (key, v) :: rest => (writeString key ++ ":" ++ render v) :: renderFields rest

end

end ServerOperator.Json
