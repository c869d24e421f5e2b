import ServerOperator.Metadata.Wire
import ServerOperator.Service

/-!
# Services in JSON
-/

namespace ServerOperator

open Json

namespace TargetPort

def toJson : TargetPort → Json
  | number n => ofInt32 n
  | name s => .string s

def ofJson? : Json → Except Mismatch TargetPort
  | .string s => .ok (name s)
  | v => (asInt32 v).map number

end TargetPort

namespace ServicePort

def toJson (p : ServicePort) : Json :=
  .object (
    member "appProtocol" .string p.appProtocol ++
    member "name" .string p.name ++
    member "nodePort" ofInt32 p.nodePort ++
    [("port", ofInt32 p.port)] ++
    member "protocol" .string p.protocol ++
    member "targetPort" TargetPort.toJson p.targetPort)

def ofJson? (v : Json) : Except Mismatch ServicePort := do
  let o ← asFields v
  return {
    name := ← o.optional "name" asText
    port := ← o.filled "port" asInt32 0
    targetPort := ← o.optional "targetPort" TargetPort.ofJson?
    nodePort := ← o.optional "nodePort" asInt32
    protocol := ← o.optional "protocol" asText
    appProtocol := ← o.optional "appProtocol" asText }

end ServicePort

namespace ServiceSpec

def toJson (s : ServiceSpec) : Json :=
  .object (
    member "clusterIP" .string s.clusterIP ++
    member "clusterIPs" (ofList .string) s.clusterIPs ++
    member "externalName" .string s.externalName ++
    member "ports" (ofList ServicePort.toJson) s.ports ++
    member "selector" (ofMap .string) s.selector ++
    member "sessionAffinity" .string s.sessionAffinity ++
    member "type" .string s.type ++
    s.foreign.toFields)

def ofJson? (v : Json) : Except Mismatch ServiceSpec := do
  let o ← asFields v
  return {
    type := ← o.optional "type" asText
    clusterIP := ← o.optional "clusterIP" asText
    clusterIPs := ← o.optional "clusterIPs" (asList asText)
    sessionAffinity := ← o.optional "sessionAffinity" asText
    externalName := ← o.optional "externalName" asText
    selector := ← o.optional "selector" (asMap asText)
    ports := ← o.optional "ports" (asList ServicePort.ofJson?)
    foreign := .ofFields o }

end ServiceSpec

section

variable {names : List String}

namespace LoadBalancerAddress

def toJson (a : LoadBalancerAddress names) : Json :=
  .object (member "hostname" .string a.hostname ++ member "ip" .string a.ip ++ a.foreign.toFields)

def ofJson? (v : Json) : Except Mismatch (LoadBalancerAddress names) := do
  let o ← asFields v
  return { ip := ← o.optional "ip" asText, hostname := ← o.optional "hostname" asText, foreign := .ofFields o }

end LoadBalancerAddress

namespace LoadBalancer

def toJson (b : LoadBalancer names) : Json :=
  .object (member "ingress" (ofList LoadBalancerAddress.toJson) b.ingress)

def ofJson? (v : Json) : Except Mismatch (LoadBalancer names) := do
  return { ingress := ← (← asFields v).optional "ingress" (asList LoadBalancerAddress.ofJson?) }

end LoadBalancer

end

namespace ServiceStatus

def toJson (s : ServiceStatus) : Json :=
  .object (member "loadBalancer" LoadBalancer.toJson s.loadBalancer ++ s.foreign.toFields)

def ofJson? (v : Json) : Except Mismatch ServiceStatus := do
  let o ← asFields v
  return { loadBalancer := ← o.optional "loadBalancer" LoadBalancer.ofJson?, foreign := .ofFields o }

end ServiceStatus

namespace Service

def toJson (s : Service) : Json :=
  .object (tag.toFields ++ [("metadata", s.metadata.toJson)] ++ member "spec" ServiceSpec.toJson s.spec ++
    member "status" ServiceStatus.toJson s.status)

def ofJson? (v : Json) : Except Mismatch Service := do
  let o ← asFields v
  tag.check o
  return {
    metadata := ← o.filled "metadata" Metadata.ofJson? {}
    spec := ← o.optional "spec" ServiceSpec.ofJson?
    status := ← o.optional "status" ServiceStatus.ofJson? }

end Service

end ServerOperator
