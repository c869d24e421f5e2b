import ServerOperator.Api.Listing
import ServerOperator.WatchLoop.Change

/-!
# Notices

The lines that an open watch brings, and what they say of an object: it is there, it has gone, or the
watch has come as far as a version. A notice can also say that the watch has failed.
-/

namespace ServerOperator

open Json

/-- What is seen of an object that is followed: of a server everything, of a child its metadata. -/
inductive Sighting where
  | server (s : Server)
  | child (m : Metadata)

namespace Sighting

def metadata : Sighting → Metadata
  | server s => s.metadata
  | child m => m

/-- The metadata of an object. Of its other members only that they can be read is asked. -/
def metadataOf (v : Json) : Except Mismatch Metadata := do
  let o ← asFields v
  o.distinct ["metadata"]
  Listing.checkOthers o ["metadata"]
  o.defaulted "metadata" Metadata.ofJson? {}

def ofJson? (kind : Kind) (v : Json) : Except Mismatch Sighting :=
  if kind = .server then (Server.ofJson? v).map server else (metadataOf v).map child

def version (s : Sighting) : String := s.metadata.resourceVersion.getD ""

/-- The name by which a server is known. -/
def keyOf (s : Server) : Key := ⟨s.space, s.metadata.name.getD ""⟩

/-- The servers that own a child. -/
def owners (m : Metadata) : List Key :=
  ((m.ownerReferences.getD []).filter fun r =>
    r.apiVersion == Server.tag.apiVersion && r.kind == Server.tag.kind).map fun r => ⟨m.space, r.name⟩

/-- The servers that get a pass: the one that is seen, or those that own the child. -/
def concerned : Sighting → List Key
  | server s => [keyOf s]
  | child m => owners m

end Sighting

inductive Notice where
  | present (seen : Sighting)
  | gone (seen : Sighting)
  | bookmark (version : String)
  | failed (status : ApiStatus)

namespace Notice

/-- The version of a bookmark. -/
def bookmarkOf (v : Json) : Except Mismatch String := do
  let o ← asFields v
  let _ ← o.required "apiVersion" asText
  let _ ← o.required "kind" asText
  o.required "metadata" fun v => do
    (← asRecord ["resourceVersion"] v).required "resourceVersion" asText

def bookmarkName : String := "BOOKMARK"

def ofJson? (kind : Kind) (v : Json) : Except Mismatch Notice := do
  let o ← asRecord ["type", "object"] v
  let type ← o.required "type" asText
  match ChangeType.ofName? type with
  | some .added | some .modified => (o.required "object" (Sighting.ofJson? kind)).map present
  | some .deleted => (o.required "object" (Sighting.ofJson? kind)).map gone
  | some .error => (o.required "object" ApiStatus.ofJson?).map failed
  | none =>
    if type = bookmarkName then (o.required "object" bookmarkOf).map bookmark
    else throw (.name type (ChangeType.all.map (·.name) ++ [bookmarkName]))

/-- Where a line is found not to match: at its end, since it is read as a whole. -/
def column : ApiBody → Option Nat
  | .value v => some v.render.utf8ByteSize
  | .text _ => none

/-- What a line says. A line that ends too early says nothing, and the status of a refused request may
stand in place of a notice. -/
def ofLine? (kind : Kind) (line : ApiBody) : Except ApiFailure (Option Notice) :=
  match line.read with
  | .error .ended => .ok none
  | .error e => .error (.malformed e)
  | .ok v =>
    match ofJson? kind v with
    | .ok notice => .ok (some notice)
    | .error cause =>
      match ApiStatus.ofJson? v with
      | .ok status => .error (.refused status)
      | .error _ => .error (.mismatch cause (column line))

end Notice

/-- The lines of a body. -/
def ApiBody.lines : ApiBody → List ApiBody
  | .value v => [.value v]
  | .text s => (s.splitOn "\n").map .text

/-- The lines that a watch brings at once, and whether more may follow. -/
def Cluster.watch (c : Cluster) (kind : Kind) : (List ApiBody × Bool) × Cluster :=
  match c.fault? .watch kind with
  | (some response, c) => ((response.body.lines, false), c)
  | (none, c) => (([], true), c)

end ServerOperator
