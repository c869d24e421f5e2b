import ServerOperator.Api.Target
import ServerOperator.Store.Program

/-!
# Requests

The one request by which each call is made. What needs a name cannot be asked for without one.
-/

namespace ServerOperator

inductive Method where
  | get
  | post
  | put
  | patch
  deriving DecidableEq, Repr

namespace Method

def name : Method → String
  | get => "GET"
  | post => "POST"
  | put => "PUT"
  | patch => "PATCH"

def all : List Method := [get, post, put, patch]

def ofName? (s : String) : Option Method := all.find? (·.name == s)

end Method

structure ApiRequest where
  method : Method
  /-- The object that is asked for. -/
  kind : Kind
  key : Key
  target : String
  contentType : Option String := none
  body : Option Json := none

namespace Call

/-- The name under which the operator writes. -/
def fieldManager : String := "mcp-runtime-operator"

/-- The target of a write. -/
def written (target : String) : String := Target.withQuery target [("fieldManager", fieldManager)]

/-- The merge patch that sets a status. -/
def statusPatch (status : ServerStatus) : Json := .object [("status", status.toJson)]

def method : Call → Method
  | .get .. => .get
  | .create .. => .post
  | .replace .. => .put
  | .patchStatus .. => .patch

def kind : Call → Kind
  | .get kind _ | .create kind .. | .replace kind .. => kind
  | .patchStatus .. => .server

def key : Call → Key
  | .get _ key | .replace _ key _ | .patchStatus key _ => key
  | .create kind space object => ⟨space, (kind.metadata object).name.getD ""⟩

def target : Call → String
  | .get kind key => Target.object kind key
  | .create kind space _ => written (Target.collection kind (some space))
  | .replace kind key _ => written (Target.object kind key)
  | .patchStatus key _ => written (Target.object .server key ++ "/status")

def body? : Call → Option Json
  | .get .. => none
  | .create kind _ object | .replace kind _ object => some (kind.toJson object)
  | .patchStatus _ status => some (statusPatch status)

def contentType? : Call → Option String
  | .get .. => none
  | .create .. | .replace .. => some "application/json"
  | .patchStatus .. => some "application/merge-patch+json"

/-- The name a call needs, if it needs one. -/
def name? : Call → Option String
  | .create .. => none
  | .get _ key | .replace _ key _ | .patchStatus key _ => some key.name

/-- The request of a call, unless it lacks its name or the target cannot be sent. -/
def request? (c : Call) : Option ApiRequest :=
  if c.name? = some "" then none
  else
    (Target.sent? c.target).map fun target => {
      method := c.method
      kind := c.kind
      key := c.key
      target
      contentType := c.contentType?
      body := c.body? }

/-- What the failure of a call says, whatever its cause. -/
def failureText : Call → String
  | .get kind key => "failed to get " ++ kind.name ++ " " ++ key.text
  | .create kind space _ => "failed to create " ++ kind.name ++ " in " ++ space
  | .replace kind key _ => "failed to replace " ++ kind.name ++ " " ++ key.text
  | .patchStatus key _ => "failed to patch status of " ++ Kind.server.name ++ " " ++ key.text

end Call

end ServerOperator
