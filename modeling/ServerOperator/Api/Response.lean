import ServerOperator.Api.Request
import ServerOperator.Json.Parser
import ServerOperator.Json.Reader
import ServerOperator.Json.Printer

/-!
# Responses

What comes back from an API server, and the answer that a call takes from it. A refused request brings
a status object that gives the reason; to get an object that is not there is no failure.
-/

namespace ServerOperator

/-- A body that was written as a value, or any text. -/
inductive ApiBody where
  | value (v : Json)
  | text (s : String)

namespace ApiBody

/-- The value of a body, as it is written. -/
def read : ApiBody → Except Json.ParseError Json
  | value v => .ok v
  | text s => Json.ofText s

def toText : ApiBody → String
  | value v => v.render
  | text s => s

end ApiBody

structure ApiResponse where
  status : Nat := 200
  body : ApiBody

/-- What a server says of a request that it refused. -/
structure ApiStatus where
  status : String
  message : String := ""
  reason : String := ""
  code : UInt16
  deriving DecidableEq, Repr

namespace ApiStatus

def fieldNames : List String := ["status", "message", "reason", "code"]

def ofJson? (v : Json) : Except Mismatch ApiStatus := do
  let o ← Json.asRecord fieldNames v
  let code ← o.member? "code" Json.asUInt16
  let message ← o.defaulted "message" Json.asText ""
  let reason ← o.defaulted "reason" Json.asText ""
  let status ← o.member? "status" Json.asText
  return { status := ← Json.present "status" status, message, reason, code := ← Json.present "code" code }

def toJson (s : ApiStatus) : Json := .object [
  ("apiVersion", .string "v1"), ("kind", .string "Status"), ("status", .string s.status),
  ("message", .string s.message), ("reason", .string s.reason), ("code", .ofNat s.code.toNat)]

/-- The reason that an object is not there. -/
def notFound : String := "NotFound"

/-- All that the status says, the texts in quotes. -/
def describe (s : ApiStatus) : String :=
  "status " ++ Text.quote s.status ++ ", message " ++ Text.quote s.message ++ ", reason " ++
    Text.quote s.reason ++ ", code " ++ toString s.code.toNat

end ApiStatus

/-- Why a request has no answer. -/
inductive ApiFailure where
  /-- Its target cannot be sent. -/
  | unsendable
  | refused (status : ApiStatus)
  | malformed (error : Json.ParseError)
  /-- What has come is not what it should be; `column` is where this was noticed, if that is known. -/
  | mismatch (cause : Mismatch) (column : Option Nat)

namespace ApiFailure

def describe : ApiFailure → String
  | unsendable => "the request target is not valid"
  | refused status => "the request was refused: " ++ status.describe
  | malformed .ended => "the response ends too early"
  | malformed .malformed => "the response is malformed"
  | mismatch cause column =>
    "the response does not match: " ++ Text.quote cause.message ++
      column.elim "" fun n => ", line 1, column " ++ toString n

end ApiFailure

/-- A body read as what it should hold. -/
def ApiBody.decode {α : Type} (b : ApiBody) (ofJson? : Json → Except Mismatch α) :
    Except ApiFailure α :=
  match b.read with
  | .error e => .error (.malformed e)
  | .ok v => (ofJson? v).mapError (.mismatch · none)

namespace ApiResponse

/-- Whether the status lays a failure to the client or to the server. -/
def isError (r : ApiResponse) : Bool := 400 ≤ r.status && r.status < 600

/-- A body that is no status object, as one. -/
def unreadable (r : ApiResponse) : ApiStatus where
  status := toString r.status
  message := Text.quote r.body.toText
  reason := "Failed to parse error data"
  code := UInt16.ofNat r.status

/-- What a refusal says. -/
def refusal? (r : ApiResponse) : Option ApiStatus :=
  if r.isError then
    match r.body.decode ApiStatus.ofJson? with
    | .ok status => some status
    | .error _ => some r.unreadable
  else none

/-- A value that a response has to hold. -/
def read {α : Type} (r : ApiResponse) (ofJson? : Json → Except Mismatch α) : Except ApiFailure α :=
  match r.refusal? with
  | some status => .error (.refused status)
  | none => r.body.decode ofJson?

end ApiResponse

namespace Call

/-- The answer that a response brings. -/
def read : (c : Call) → ApiResponse → Except ApiFailure c.Answer
  | .get kind _, r =>
    if (r.refusal?.map (·.reason)) = some ApiStatus.notFound then .ok none
    else (r.read kind.ofJson?).map some
  | .create kind .., r | .replace kind .., r => r.read kind.ofJson?
  | .patchStatus .., r => (r.read Server.ofJson?).map fun _ => ()

/-- A failed call; `cause` is what went wrong with its request. -/
def failed (c : Call) (cause : ApiFailure) : StoreFailure := ⟨c.failureText, [cause.describe]⟩

end Call

/-- An API server with its state. -/
abbrev ApiServer (σ : Type) := σ → ApiRequest → ApiResponse × σ

/-- Calls by way of an API server. Nothing is sent for a call that has no request. -/
def ApiServer.handler {σ : Type} (server : ApiServer σ) : Program.Handler σ := fun s c =>
  match c.request? with
  | none => (.error (c.failed .unsendable), s)
  | some request =>
    let (response, s) := server s request
    (match c.read response with
     | .ok answer => .ok answer
     | .error cause => .error (c.failed cause), s)

/-- What is shown of a store behind an API server: not the connection. -/
def ApiServer.storeText : String := "KubeStore \x7b client: \"<kube::Client>\" \x7d"

end ServerOperator
