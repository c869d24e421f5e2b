import ServerOperator.Metadata.Wire
import ServerOperator.Server

/-!
# Servers in JSON

The parts of a server are records: an object, or an array of the fields in the order declared here. No
field of a server or of its parts stands twice. Members are read in the order of their names, and what is
missing is told of after that.
An unset setting and an empty list or map are left out; a status has all its members.
-/

namespace ServerOperator

open Json

namespace EnvVar

def toJson (e : EnvVar) : Json :=
  .object [("name", .string e.name), ("value", .string e.value)]

def ofJson? (v : Json) : Except Mismatch EnvVar := do
  let o ← asRecord ["name", "value"] v
  let name ← o.member? "name" asText
  let value ← o.defaulted "value" asText ""
  return { name := ← present "name" name, value }

end EnvVar

namespace ResourceList

def toJson (r : ResourceList) : Json :=
  .object (member "cpu" .string r.cpu ++ member "memory" .string r.memory)

def ofJson? (v : Json) : Except Mismatch ResourceList := do
  let o ← asRecord ["cpu", "memory"] v
  return { cpu := ← o.optional "cpu" asText, memory := ← o.optional "memory" asText }

end ResourceList

namespace ResourceRequirements

def toJson (r : ResourceRequirements) : Json :=
  .object (member "requests" ResourceList.toJson r.requests ++ member "limits" ResourceList.toJson r.limits)

def ofJson? (v : Json) : Except Mismatch ResourceRequirements := do
  let o ← asRecord ["requests", "limits"] v
  return {
    limits := ← o.optional "limits" ResourceList.ofJson?
    requests := ← o.optional "requests" ResourceList.ofJson? }

end ResourceRequirements

namespace ServerSpec

/-- A member that is written only when it is not empty. -/
def memberUnlessEmpty (key : String) (isEmpty : Bool) (v : Json) : Fields :=
  if isEmpty then [] else [(key, v)]

def toJson (s : ServerSpec) : Json :=
  .object (
    [("image", .string s.image)] ++
    member "imageTag" .string s.imageTag ++
    member "registryOverride" .string s.registryOverride ++
    member "replicas" ofInt32 s.replicas ++
    member "port" ofInt32 s.port ++
    member "servicePort" ofInt32 s.servicePort ++
    member "ingressHost" .string s.ingressHost ++
    member "ingressPath" .string s.ingressPath ++
    member "ingressClass" .string s.ingressClass ++
    memberUnlessEmpty "ingressAnnotations" s.ingressAnnotations.isEmpty (ofMap .string s.ingressAnnotations) ++
    memberUnlessEmpty "envVars" s.envVars.isEmpty (ofList EnvVar.toJson s.envVars) ++
    memberUnlessEmpty "imagePullSecrets" s.imagePullSecrets.isEmpty (ofList .string s.imagePullSecrets) ++
    member "resources" ResourceRequirements.toJson s.resources)

def fieldNames : List String :=
  ["image", "imageTag", "registryOverride", "replicas", "port", "servicePort", "ingressHost", "ingressPath",
   "ingressClass", "ingressAnnotations", "envVars", "imagePullSecrets", "resources"]

def ofJson? (v : Json) : Except Mismatch ServerSpec := do
  let o ← asRecord fieldNames v
  return {
    envVars := ← o.defaulted "envVars" (asList EnvVar.ofJson?) []
    image := ← o.defaulted "image" asText ""
    imagePullSecrets := ← o.defaulted "imagePullSecrets" (asList asText) []
    imageTag := ← o.optional "imageTag" asText
    ingressAnnotations := ← o.defaulted "ingressAnnotations" (asMap asText) ∅
    ingressClass := ← o.optional "ingressClass" asText
    ingressHost := ← o.optional "ingressHost" asText
    ingressPath := ← o.optional "ingressPath" asText
    port := ← o.optional "port" asInt32
    registryOverride := ← o.optional "registryOverride" asText
    replicas := ← o.optional "replicas" asInt32
    resources := ← o.optional "resources" ResourceRequirements.ofJson?
    servicePort := ← o.optional "servicePort" asInt32 }

end ServerSpec

namespace Phase

def toJson (p : Phase) : Json := .string p.name

/-- The phase of a name. -/
def named (s : String) : Except Mismatch Phase :=
  match ofName? s with
  | some p => .ok p
  | none => .error (.name s (all.map name))

/-- A phase is its name, or an object with the name as only member and nothing under it. -/
def ofJson? : Json → Except Mismatch Phase
  | .string s => named s
  | .object [(s, .null)] => named s
  | v => .error (.type v "the name of a phase")

end Phase

namespace ServerStatus

def toJson (s : ServerStatus) : Json :=
  .object [
    ("phase", ofOption Phase.toJson s.phase),
    ("message", ofOption .string s.message),
    ("deploymentReady", .bool s.deploymentReady),
    ("serviceReady", .bool s.serviceReady),
    ("ingressReady", .bool s.ingressReady),
    ("observedGeneration", ofOption ofInt64 s.observedGeneration)]

def fieldNames : List String :=
  ["phase", "message", "deploymentReady", "serviceReady", "ingressReady", "observedGeneration"]

def ofJson? (v : Json) : Except Mismatch ServerStatus := do
  let o ← asRecord fieldNames v
  return {
    deploymentReady := ← o.defaulted "deploymentReady" asBool false
    ingressReady := ← o.defaulted "ingressReady" asBool false
    message := ← o.optional "message" asText
    observedGeneration := ← o.optional "observedGeneration" asInt64
    phase := ← o.optional "phase" Phase.ofJson?
    serviceReady := ← o.defaulted "serviceReady" asBool false }

end ServerStatus

namespace Server

def toJson (s : Server) : Json :=
  .object (tag.toFields ++ [("metadata", s.metadata.toJson), ("spec", s.spec.toJson)] ++
    member "status" ServerStatus.toJson s.status)

/-- The version and kind given are not looked at; metadata and spec have to be there. -/
def ofJson? (v : Json) : Except Mismatch Server := do
  let o ← asFields v
  o.distinct ["metadata", "spec", "status"]
  let metadata ← o.member? "metadata" Metadata.ofJson?
  let spec ← o.member? "spec" ServerSpec.ofJson?
  let status ← o.optional "status" ServerStatus.ofJson?
  return { metadata := ← present "metadata" metadata, spec := ← present "spec" spec, status }

end Server

end ServerOperator
