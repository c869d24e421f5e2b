import ServerOperator.Deployment
import ServerOperator.Metadata.Wire

/-!
# Deployments in JSON
-/

namespace ServerOperator

open Json

/-- An object with the member `name` only, as lists of references to other objects have. -/
def Json.reference (name : String) : Json :=
  .object [("name", .string name)]

def Json.asReference (v : Json) : Except Mismatch String := do
  (← asFields v).filled "name" asText ""

/-- A quantity is a text; an integer stands for its decimal digits. -/
def Json.asQuantity : Json → Except Mismatch String
  | .string s => .ok s
  | .int n => .ok (toString n)
  | v => .error (.type v "a quantity")

namespace ContainerPort

def toJson (p : ContainerPort) : Json :=
  .object (
    [("containerPort", ofInt32 p.containerPort)] ++
    member "hostIP" .string p.hostIP ++
    member "hostPort" ofInt32 p.hostPort ++
    member "name" .string p.name ++
    member "protocol" .string p.protocol)

def ofJson? (v : Json) : Except Mismatch ContainerPort := do
  let o ← asFields v
  return {
    name := ← o.optional "name" asText
    containerPort := ← o.filled "containerPort" asInt32 0
    hostIP := ← o.optional "hostIP" asText
    hostPort := ← o.optional "hostPort" asInt32
    protocol := ← o.optional "protocol" asText }

end ContainerPort

namespace KeySelector

def toJson (s : KeySelector) : Json :=
  .object ([("key", .string s.key), ("name", .string s.name)] ++ member "optional" .bool s.isOptional)

def ofJson? (v : Json) : Except Mismatch KeySelector := do
  let o ← asFields v
  return {
    key := ← o.filled "key" asText ""
    name := ← o.filled "name" asText ""
    isOptional := ← o.optional "optional" asBool }

end KeySelector

namespace FieldSelector

def toJson (s : FieldSelector) : Json :=
  .object (member "apiVersion" .string s.apiVersion ++ [("fieldPath", .string s.fieldPath)])

def ofJson? (v : Json) : Except Mismatch FieldSelector := do
  let o ← asFields v
  return { apiVersion := ← o.optional "apiVersion" asText, fieldPath := ← o.filled "fieldPath" asText "" }

end FieldSelector

namespace ResourceSelector

def toJson (s : ResourceSelector) : Json :=
  .object (member "containerName" .string s.containerName ++ member "divisor" .string s.divisor ++
    [("resource", .string s.resource)])

def ofJson? (v : Json) : Except Mismatch ResourceSelector := do
  let o ← asFields v
  return {
    containerName := ← o.optional "containerName" asText
    divisor := ← o.optional "divisor" asQuantity
    resource := ← o.filled "resource" asText "" }

end ResourceSelector

namespace EnvSource

def toJson (s : EnvSource) : Json :=
  .object (
    member "configMapKeyRef" KeySelector.toJson s.configMapKey ++
    member "fieldRef" FieldSelector.toJson s.field ++
    member "resourceFieldRef" ResourceSelector.toJson s.resourceField ++
    member "secretKeyRef" KeySelector.toJson s.secretKey)

def ofJson? (v : Json) : Except Mismatch EnvSource := do
  let o ← asFields v
  return {
    configMapKey := ← o.optional "configMapKeyRef" KeySelector.ofJson?
    field := ← o.optional "fieldRef" FieldSelector.ofJson?
    resourceField := ← o.optional "resourceFieldRef" ResourceSelector.ofJson?
    secretKey := ← o.optional "secretKeyRef" KeySelector.ofJson? }

end EnvSource

namespace ContainerEnv

def toJson (e : ContainerEnv) : Json :=
  .object ([("name", .string e.name)] ++ member "value" .string e.value ++
    member "valueFrom" EnvSource.toJson e.valueFrom)

def ofJson? (v : Json) : Except Mismatch ContainerEnv := do
  let o ← asFields v
  return {
    name := ← o.filled "name" asText ""
    value := ← o.optional "value" asText
    valueFrom := ← o.optional "valueFrom" EnvSource.ofJson? }

end ContainerEnv

namespace ContainerResources

def toJson (r : ContainerResources) : Json :=
  .object (member "claims" (ofList reference) r.claims ++ member "limits" (ofMap .string) r.limits ++
    member "requests" (ofMap .string) r.requests)

def ofJson? (v : Json) : Except Mismatch ContainerResources := do
  let o ← asFields v
  return {
    requests := ← o.optional "requests" (asMap asQuantity)
    limits := ← o.optional "limits" (asMap asQuantity)
    claims := ← o.optional "claims" (asList asReference) }

end ContainerResources

namespace Container

def toJson (c : Container) : Json :=
  .object (
    member "args" (ofList .string) c.args ++
    member "command" (ofList .string) c.command ++
    member "env" (ofList ContainerEnv.toJson) c.env ++
    member "image" .string c.image ++
    [("name", .string c.name)] ++
    member "ports" (ofList ContainerPort.toJson) c.ports ++
    member "resources" ContainerResources.toJson c.resources ++
    member "terminationMessagePath" .string c.terminationMessagePath ++
    c.foreign.toFields)

def ofJson? (v : Json) : Except Mismatch Container := do
  let o ← asFields v
  return {
    name := ← o.filled "name" asText ""
    image := ← o.optional "image" asText
    command := ← o.optional "command" (asList asText)
    args := ← o.optional "args" (asList asText)
    terminationMessagePath := ← o.optional "terminationMessagePath" asText
    ports := ← o.optional "ports" (asList ContainerPort.ofJson?)
    env := ← o.optional "env" (asList ContainerEnv.ofJson?)
    resources := ← o.optional "resources" ContainerResources.ofJson?
    foreign := .ofFields o }

end Container

namespace PodSpec

def toJson (p : PodSpec) : Json :=
  .object (
    [("containers", ofList Container.toJson p.containers)] ++
    member "imagePullSecrets" (ofList reference) p.imagePullSecrets ++
    member "initContainers" (ofList Container.toJson) p.initContainers ++
    member "nodeSelector" (ofMap .string) p.nodeSelector ++
    member "restartPolicy" .string p.restartPolicy ++
    member "serviceAccountName" .string p.serviceAccountName ++
    p.foreign.toFields)

def ofJson? (v : Json) : Except Mismatch PodSpec := do
  let o ← asFields v
  return {
    serviceAccountName := ← o.optional "serviceAccountName" asText
    restartPolicy := ← o.optional "restartPolicy" asText
    nodeSelector := ← o.optional "nodeSelector" (asMap asText)
    imagePullSecrets := ← o.optional "imagePullSecrets" (asList asReference)
    initContainers := ← o.optional "initContainers" (asList Container.ofJson?)
    containers := ← o.filled "containers" (asList Container.ofJson?) []
    foreign := .ofFields o }

end PodSpec

namespace PodTemplate

def toJson (t : PodTemplate) : Json :=
  .object (member "metadata" Metadata.toJson t.metadata ++ member "spec" PodSpec.toJson t.spec)

def ofJson? (v : Json) : Except Mismatch PodTemplate := do
  let o ← asFields v
  return {
    metadata := ← o.optional "metadata" Metadata.ofJson?
    spec := ← o.optional "spec" PodSpec.ofJson? }

end PodTemplate

namespace LabelSelector

def toJson (s : LabelSelector) : Json :=
  .object (member "matchLabels" (ofMap .string) s.matchLabels ++ s.foreign.toFields)

def ofJson? (v : Json) : Except Mismatch LabelSelector := do
  let o ← asFields v
  return { matchLabels := ← o.optional "matchLabels" (asMap asText), foreign := .ofFields o }

end LabelSelector

namespace DeploymentStrategy

def toJson (s : DeploymentStrategy) : Json :=
  .object (member "type" .string s.type ++ s.foreign.toFields)

def ofJson? (v : Json) : Except Mismatch DeploymentStrategy := do
  let o ← asFields v
  return { type := ← o.optional "type" asText, foreign := .ofFields o }

end DeploymentStrategy

namespace DeploymentSpec

def toJson (s : DeploymentSpec) : Json :=
  .object (
    member "minReadySeconds" ofInt32 s.minReadySeconds ++
    member "paused" .bool s.paused ++
    member "progressDeadlineSeconds" ofInt32 s.progressDeadlineSeconds ++
    member "replicas" ofInt32 s.replicas ++
    member "revisionHistoryLimit" ofInt32 s.revisionHistoryLimit ++
    [("selector", s.selector.toJson)] ++
    member "strategy" DeploymentStrategy.toJson s.strategy ++
    [("template", s.template.toJson)])

def ofJson? (v : Json) : Except Mismatch DeploymentSpec := do
  let o ← asFields v
  return {
    replicas := ← o.optional "replicas" asInt32
    selector := ← o.filled "selector" LabelSelector.ofJson? {}
    minReadySeconds := ← o.optional "minReadySeconds" asInt32
    paused := ← o.optional "paused" asBool
    progressDeadlineSeconds := ← o.optional "progressDeadlineSeconds" asInt32
    revisionHistoryLimit := ← o.optional "revisionHistoryLimit" asInt32
    strategy := ← o.optional "strategy" DeploymentStrategy.ofJson?
    template := ← o.filled "template" PodTemplate.ofJson? {} }

end DeploymentSpec

namespace DeploymentStatus

def toJson (s : DeploymentStatus) : Json :=
  .object (
    member "availableReplicas" ofInt32 s.availableReplicas ++
    member "collisionCount" ofInt32 s.collisionCount ++
    member "observedGeneration" ofInt64 s.observedGeneration ++
    member "readyReplicas" ofInt32 s.readyReplicas ++
    member "replicas" ofInt32 s.replicas ++
    member "unavailableReplicas" ofInt32 s.unavailableReplicas ++
    member "updatedReplicas" ofInt32 s.updatedReplicas ++
    s.foreign.toFields)

def ofJson? (v : Json) : Except Mismatch DeploymentStatus := do
  let o ← asFields v
  return {
    replicas := ← o.optional "replicas" asInt32
    readyReplicas := ← o.optional "readyReplicas" asInt32
    availableReplicas := ← o.optional "availableReplicas" asInt32
    unavailableReplicas := ← o.optional "unavailableReplicas" asInt32
    updatedReplicas := ← o.optional "updatedReplicas" asInt32
    observedGeneration := ← o.optional "observedGeneration" asInt64
    collisionCount := ← o.optional "collisionCount" asInt32
    foreign := .ofFields o }

end DeploymentStatus

namespace Deployment

def toJson (d : Deployment) : Json :=
  .object (tag.toFields ++ [("metadata", d.metadata.toJson)] ++ member "spec" DeploymentSpec.toJson d.spec ++
    member "status" DeploymentStatus.toJson d.status)

def ofJson? (v : Json) : Except Mismatch Deployment := do
  let o ← asFields v
  tag.check o
  return {
    metadata := ← o.filled "metadata" Metadata.ofJson? {}
    spec := ← o.optional "spec" DeploymentSpec.ofJson?
    status := ← o.optional "status" DeploymentStatus.ofJson? }

end Deployment

end ServerOperator
