import ServerOperator.Kind

/-!
# Request targets

Where the API keeps its objects: the path of a kind, of a namespace in it, and of one object.
-/

namespace ServerOperator

/-- The kind as it stands in paths. -/
def Kind.plural : Kind → String
  | .server => "mcpservers"
  | .deployment => "deployments"
  | .service => "services"
  | .ingress => "ingresses"

namespace Target

/-- The path of an API version; the versions of the core group have no group in them. -/
def root (apiVersion : String) : String :=
  if apiVersion.toList.contains '/' then "/apis/" ++ apiVersion else "/api/" ++ apiVersion

/-- All objects of a kind in one namespace, or in all of them. -/
def collection (k : Kind) (space : Option String) : String :=
  let within := match space with
    | none => ""
    | some space => "/namespaces/" ++ space
  root k.tag.apiVersion ++ within ++ "/" ++ k.plural

def object (k : Kind) (key : Key) : String := collection k (some key.space) ++ "/" ++ key.name

/-- A target with parameters behind it. -/
def withQuery (target : String) (parameters : List (String × String)) : String :=
  target ++ "?" ++ String.join (parameters.map fun (key, value) => "&" ++ key ++ "=" ++ value)

/-- A parameter value with all but letters, digits and a few marks escaped, a blank as a plus. -/
def encode (s : String) : String :=
  String.join (s.toUTF8.toList.map fun b =>
    let c := Char.ofNat b.toNat
    if c.isAlphanum || c == '*' || c == '-' || c == '.' || c == '_' then c.toString
    else if c == ' ' then "+"
    else "%" ++ String.ofList [upperDigit (b.toNat / 16), upperDigit (b.toNat % 16)])
where
  upperDigit (n : Nat) : Char := (Nat.digitChar n).toUpper

/-! ## Well-formed targets -/

/-- Characters that may stand in a path unescaped. -/
def isPathChar (c : Char) : Bool :=
  0x20 < c.toNat && c ≠ '<' && c ≠ '>' && c ≠ '`' && c ≠ '\x7f'

/-- Characters that may stand in a query unescaped. -/
def isQueryChar (c : Char) : Bool :=
  0x20 < c.toNat && c ≠ '"' && c ≠ '<' && c ≠ '>' && c ≠ '\x7f'

/-- How many bytes a target may have. -/
def maxLength : Nat := 65534

/-- The target as it is sent: what follows a hash is for the sender only. Some characters cannot be sent,
nor can a target that is too long. -/
def sent? (target : String) : Option String :=
  let cs := target.toList.takeWhile (· ≠ '#')
  let path := cs.takeWhile (· ≠ '?')
  let query := (cs.dropWhile (· ≠ '?')).drop 1
  if target.utf8ByteSize ≤ maxLength && path.all isPathChar && query.all isQueryChar then
    some (String.ofList cs)
  else none

end Target

end ServerOperator
