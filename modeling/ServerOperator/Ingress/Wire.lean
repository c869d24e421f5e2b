import ServerOperator.Ingress
import ServerOperator.Service.Wire

/-!
# Ingresses in JSON
-/

namespace ServerOperator

open Json

namespace ObjectReference

def toJson (r : ObjectReference) : Json :=
  .object (member "apiGroup" .string r.apiGroup ++ [("kind", .string r.kind), ("name", .string r.name)])

def ofJson? (v : Json) : Except Mismatch ObjectReference := do
  let o ← asFields v
  return {
    apiGroup := ← o.optional "apiGroup" asText
    kind := ← o.filled "kind" asText ""
    name := ← o.filled "name" asText "" }

end ObjectReference

namespace Backend

def portToJson (p : BackendPort) : Json :=
  .object (member "name" .string p.name ++ member "number" ofInt32 p.number)

def serviceToJson (s : ServiceBackend) : Json :=
  .object ([("name", .string s.name)] ++ member "port" portToJson s.port)

def toJson (b : Backend) : Json :=
  .object (member "resource" ObjectReference.toJson b.resource ++ member "service" serviceToJson b.service)

def portOf (v : Json) : Except Mismatch BackendPort := do
  let o ← asFields v
  return { name := ← o.optional "name" asText, number := ← o.optional "number" asInt32 }

def serviceOf (v : Json) : Except Mismatch ServiceBackend := do
  let o ← asFields v
  return { name := ← o.filled "name" asText "", port := ← o.optional "port" portOf }

def ofJson? (v : Json) : Except Mismatch Backend := do
  let o ← asFields v
  return {
    service := ← o.optional "service" serviceOf
    resource := ← o.optional "resource" ObjectReference.ofJson? }

end Backend

namespace IngressPath

def toJson (p : IngressPath) : Json :=
  .object ([("backend", p.backend.toJson)] ++ member "path" .string p.path ++
    [("pathType", .string p.pathType)])

def ofJson? (v : Json) : Except Mismatch IngressPath := do
  let o ← asFields v
  return {
    path := ← o.optional "path" asText
    pathType := ← o.filled "pathType" asText ""
    backend := ← o.filled "backend" Backend.ofJson? {} }

end IngressPath

namespace IngressRule

def pathsToJson (paths : List IngressPath) : Json :=
  .object [("paths", ofList IngressPath.toJson paths)]

def toJson (r : IngressRule) : Json :=
  .object (member "host" .string r.host ++ member "http" pathsToJson r.http)

def pathsOf (v : Json) : Except Mismatch (List IngressPath) := do
  (← asFields v).filled "paths" (asList IngressPath.ofJson?) []

def ofJson? (v : Json) : Except Mismatch IngressRule := do
  let o ← asFields v
  return { host := ← o.optional "host" asText, http := ← o.optional "http" pathsOf }

end IngressRule

namespace IngressTls

def toJson (t : IngressTls) : Json :=
  .object (member "hosts" (ofList .string) t.hosts ++ member "secretName" .string t.secretName)

def ofJson? (v : Json) : Except Mismatch IngressTls := do
  let o ← asFields v
  return { hosts := ← o.optional "hosts" (asList asText), secretName := ← o.optional "secretName" asText }

end IngressTls

namespace IngressSpec

def toJson (s : IngressSpec) : Json :=
  .object (
    member "defaultBackend" Backend.toJson s.defaultBackend ++
    member "ingressClassName" .string s.ingressClassName ++
    member "rules" (ofList IngressRule.toJson) s.rules ++
    member "tls" (ofList IngressTls.toJson) s.tls)

def ofJson? (v : Json) : Except Mismatch IngressSpec := do
  let o ← asFields v
  return {
    ingressClassName := ← o.optional "ingressClassName" asText
    tls := ← o.optional "tls" (asList IngressTls.ofJson?)
    defaultBackend := ← o.optional "defaultBackend" Backend.ofJson?
    rules := ← o.optional "rules" (asList IngressRule.ofJson?) }

end IngressSpec

namespace IngressStatus

def toJson (s : IngressStatus) : Json :=
  .object (member "loadBalancer" LoadBalancer.toJson s.loadBalancer)

def ofJson? (v : Json) : Except Mismatch IngressStatus := do
  return { loadBalancer := ← (← asFields v).optional "loadBalancer" LoadBalancer.ofJson? }

end IngressStatus

namespace Ingress

def toJson (i : Ingress) : Json :=
  .object (tag.toFields ++ [("metadata", i.metadata.toJson)] ++ member "spec" IngressSpec.toJson i.spec ++
    member "status" IngressStatus.toJson i.status)

def ofJson? (v : Json) : Except Mismatch Ingress := do
  let o ← asFields v
  tag.check o
  return {
    metadata := ← o.filled "metadata" Metadata.ofJson? {}
    spec := ← o.optional "spec" IngressSpec.ofJson?
    status := ← o.optional "status" IngressStatus.ofJson? }

end Ingress

end ServerOperator
