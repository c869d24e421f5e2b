import ServerOperator.Api.Fault
import ServerOperator.Api.Listing
import ServerOperator.Json.MergePatch

/-!
# A cluster as documents

An API server that keeps objects as they were written, knows the time, and remembers every request for
an object. It takes no versions, and writes through it are not announced to watchers.
-/

namespace ServerOperator

/-- A request for an object and how it was answered. -/
structure Exchange where
  /-- In milliseconds. -/
  time : Nat
  request : ApiRequest
  status : Nat

structure Cluster where
  clock : Nat := 0
  objects : Table (Kind × Key) Json := ∅
  faults : List Fault := []
  /-- The latest first. -/
  exchanges : List Exchange := []

namespace Cluster

def store (c : Cluster) (kind : Kind) (key : Key) (v : Json) : Cluster :=
  { c with objects := c.objects.insert (kind, key) v }

def remove (c : Cluster) (kind : Kind) (key : Key) : Cluster :=
  { c with objects := c.objects.erase (kind, key) }

/-- Where a document is kept. -/
def keyOf (v : Json) : Key :=
  ⟨(v.textAt? ["metadata", "namespace"]).getD "", (v.textAt? ["metadata", "name"]).getD ""⟩

/-- Add a document under its own name. -/
def add (c : Cluster) (kind : Kind) (v : Json) : Cluster := c.store kind (keyOf v) v

/-! ## Faults -/

/-- The response of a fault, if one applies. -/
def fault? (c : Cluster) (access : Access) (kind : Kind) : Option ApiResponse × Cluster :=
  match Fault.take? access kind c.faults with
  | some (response, faults) => (some response, { c with faults })
  | none => (none, c)

/-! ## Objects -/

def notFound (kind : Kind) (key : Key) : ApiResponse :=
  Fault.refusal 404 ApiStatus.notFound (kind.plural ++ " \"" ++ key.name ++ "\" not found")

def ok (status : Nat) (v : Json) : ApiResponse := { status, body := .value v }

/-- The answer to a request for an object. -/
def serve (c : Cluster) (r : ApiRequest) : ApiResponse × Cluster :=
  let sent := r.body.getD .null
  match r.method, c.objects.get? (r.kind, r.key) with
  | .post, _ => (ok 201 sent, c.store r.kind r.key sent)
  | .get, some live => (ok 200 live, c)
  | .put, some _ => (ok 200 sent, c.store r.kind r.key sent)
  | .patch, some live =>
    let patched := live.mergePatch sent
    (ok 200 patched, c.store r.kind r.key patched)
  | _, none => (notFound r.kind r.key, c)

def respond : ApiServer Cluster := fun c r =>
  let (response, c) :=
    match c.fault? (.object r.method) r.kind with
    | (some response, c) => (response, c)
    | (none, c) => c.serve r
  (response, { c with exchanges := ⟨c.clock, r, response.status⟩ :: c.exchanges })

def handler : Program.Handler Cluster := ApiServer.handler respond

/-! ## Collections -/

/-- Whether a namespace is among those that are looked at. -/
def inScope (scope : Option String) (space : String) : Bool := scope.all (· == space)

/-- The version of every listing. -/
def version : String := "1"

/-- The servers of a scope. Of children none are listed. -/
def listed (c : Cluster) (kind : Kind) (scope : Option String) : List Json :=
  if kind = .server then
    (c.objects.entries.filter fun ((k, key), _) => k == kind && inScope scope key.space).map (·.2)
  else []

/-- The answer to a listing. -/
def list (c : Cluster) (kind : Kind) (scope : Option String) : ApiResponse × Cluster :=
  match c.fault? .list kind with
  | (some response, c) => (response, c)
  | (none, c) => (ok 200 (Listing.toJson { items := c.listed kind scope, version }), c)

end Cluster

end ServerOperator
