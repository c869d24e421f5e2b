import ServerOperator.Json.Reader
import ServerOperator.Metadata

/-!
# Metadata in JSON

Unknown members are ignored, `null` means unset, and unset fields are left out. Members are read in the
order of their names, so that of several that do not match the first is told of. Foreign members match
whatever they hold.
-/

namespace ServerOperator

open Json

namespace OwnerReference

def toJson (r : OwnerReference) : Json :=
  .object (
    [("apiVersion", .string r.apiVersion)] ++
    member "blockOwnerDeletion" .bool r.blockOwnerDeletion ++
    member "controller" .bool r.controller ++
    [("kind", .string r.kind), ("name", .string r.name), ("uid", .string r.uid)])

def ofJson? (v : Json) : Except Mismatch OwnerReference := do
  let o ← asFields v
  return {
    apiVersion := ← o.filled "apiVersion" asText ""
    blockOwnerDeletion := ← o.optional "blockOwnerDeletion" asBool
    controller := ← o.optional "controller" asBool
    kind := ← o.filled "kind" asText ""
    name := ← o.filled "name" asText ""
    uid := ← o.filled "uid" asText "" }

end OwnerReference

namespace Metadata

def toJson (m : Metadata) : Json :=
  .object (
    member "annotations" (ofMap .string) m.annotations ++
    member "deletionGracePeriodSeconds" ofInt64 m.deletionGracePeriodSeconds ++
    member "finalizers" (ofList .string) m.finalizers ++
    member "generateName" .string m.generateName ++
    member "generation" ofInt64 m.generation ++
    member "labels" (ofMap .string) m.labels ++
    member "name" .string m.name ++
    member "namespace" .string m.ns ++
    member "ownerReferences" (ofList OwnerReference.toJson) m.ownerReferences ++
    member "resourceVersion" .string m.resourceVersion ++
    member "uid" .string m.uid ++
    m.foreign.toFields)

def ofJson? (v : Json) : Except Mismatch Metadata := do
  let o ← asFields v
  return {
    annotations := ← o.optional "annotations" (asMap asText)
    deletionGracePeriodSeconds := ← o.optional "deletionGracePeriodSeconds" asInt64
    finalizers := ← o.optional "finalizers" (asList asText)
    generateName := ← o.optional "generateName" asText
    generation := ← o.optional "generation" asInt64
    labels := ← o.optional "labels" (asMap asText)
    name := ← o.optional "name" asText
    ns := ← o.optional "namespace" asText
    ownerReferences := ← o.optional "ownerReferences" (asList OwnerReference.ofJson?)
    resourceVersion := ← o.optional "resourceVersion" asText
    uid := ← o.optional "uid" asText
    foreign := .ofFields o }

end Metadata

namespace TypeTag

def toFields (t : TypeTag) : Fields :=
  [("apiVersion", .string t.apiVersion), ("kind", .string t.kind)]

/-- A text that has to be the one expected. -/
def asExactly (expected : String) (v : Json) : Except Mismatch Unit := do
  if (← asText v) = expected then return () else throw (.value v expected)

/-- An object may leave its version and kind out; if it names them they have to be the right ones. -/
def check (t : TypeTag) (o : Fields) : Except Mismatch Unit := do
  let _ ← o.member? "apiVersion" (asExactly t.apiVersion)
  let _ ← o.member? "kind" (asExactly t.kind)

end TypeTag

end ServerOperator
