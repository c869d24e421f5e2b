import ServerOperator.Child.Metadata
import ServerOperator.Deployment
import ServerOperator.Quantity
import ServerOperator.Server.Defaults
import ServerOperator.Server.Validation

/-!
# The Deployment of a server

One container named after the server. Of a live Deployment the operator owns the replicas, the pod
labels, the pull secrets, and of its own container the image, ports, environment and resources; the
selector cannot change after creation and is never touched.
-/

namespace ServerOperator

/-- The name of the port that serves requests, on the container and on the service. -/
def httpPortName : String := "http"

/-! ## Container resources -/

/-- One quantity: the trimmed value given for it, or a default. -/
def quantityOr (default : String) (kind : ErrorKind) (field : String) (value : Option String) :
    Except OperatorError String :=
  match Text.given? value with
  | none => .ok default
  | some value =>
    if Quantity.isValid value then .ok value
    else
      .error (({ kind, message := field ++ " '" ++ value ++ "' is not a valid quantity" : OperatorError }
        |>.withContext "field" field).withContext "value" value)

def cpuAndMemory (cpu memory : String) : SortedMap String :=
  (∅ : SortedMap String).insert "cpu" cpu |>.insert "memory" memory

/-- The four quantities of a container; the first invalid one is the error. -/
def ResourceRequirements.resolve (r : Option ResourceRequirements) : Except OperatorError ContainerResources := do
  let requests := r.bind (·.requests)
  let limits := r.bind (·.limits)
  let cpuRequest ← quantityOr Default.cpuRequest .invalidCpuRequest "resources.requests.cpu" (requests.bind (·.cpu))
  let memoryRequest ←
    quantityOr Default.memoryRequest .invalidMemoryRequest "resources.requests.memory" (requests.bind (·.memory))
  let cpuLimit ← quantityOr Default.cpuLimit .invalidCpuLimit "resources.limits.cpu" (limits.bind (·.cpu))
  let memoryLimit ←
    quantityOr Default.memoryLimit .invalidMemoryLimit "resources.limits.memory" (limits.bind (·.memory))
  return {
    requests := some (cpuAndMemory cpuRequest memoryRequest)
    limits := some (cpuAndMemory cpuLimit memoryLimit) }

/-- The container with the resources asked for, whatever it had before. -/
def Container.withResources (c : Container) (r : Option ResourceRequirements) : Except OperatorError Container := do
  return { c with resources := some (← ResourceRequirements.resolve r) }

/-- The same in place: a container is given its resources only once all of them are known to be valid. -/
def Container.applyResources (r : Option ResourceRequirements) : ExceptT OperatorError (StateM Container) Unit := do
  let resources ← MonadExcept.ofExcept (ResourceRequirements.resolve r)
  modify ({ · with resources := some resources })

/-! ## Synthesis -/

def EnvVar.toContainer (e : EnvVar) : ContainerEnv where
  name := e.name
  value := some e.value

/-- A list that is left out when empty. -/
def unlessEmpty {α : Type} (l : List α) : Option (List α) :=
  if l.isEmpty then none else some l

/-- The container of a server but for its resources. -/
def Server.container (s : Server) (image : String) : Container where
  name := s.name
  image := some image
  ports := some [{
    name := some httpPortName
    containerPort := s.spec.port.getD Default.port
    protocol := some "TCP" }]
  env := unlessEmpty (s.spec.envVars.map EnvVar.toContainer)

def Server.deploymentSpec (s : Server) (container : Container) : DeploymentSpec where
  replicas := some (s.spec.replicas.getD Default.replicas)
  selector := { matchLabels := some ((∅ : SortedMap String).insert appLabel s.name) }
  template := {
    metadata := some { labels := some (childLabels s.name) }
    spec := some { containers := [container], imagePullSecrets := unlessEmpty s.spec.imagePullSecrets } }

/-- The container of a server, unless its image or a quantity is at fault. -/
def Server.container? (s : Server) : Except OperatorError Container := do
  (s.container (← s.spec.resolveImage)).withResources s.spec.resources

/-- The Deployment that a server asks for. -/
def Server.deployment (s : Server) : Except OperatorError Deployment :=
  match s.container? with
  | .ok container => .ok { metadata := s.childMetadata, spec := some (s.deploymentSpec container) }
  | .error e =>
    .error (((e.withContext "mcpServer" s.name).withContext "namespace" s.space).withContext
      "resource" "deployment")

/-! ## Merging -/

/-- Bring the first container of the same name up to date, or append the wanted one. -/
def mergeContainer : List Container → Container → List Container
  | [], wanted => [wanted]
  | c :: cs, wanted =>
    if c.name = wanted.name then
      { c with image := wanted.image, ports := wanted.ports, env := wanted.env, resources := wanted.resources } :: cs
    else c :: mergeContainer cs wanted

def PodSpec.merge (live wanted : PodSpec) : PodSpec :=
  { live with
    imagePullSecrets := wanted.imagePullSecrets
    containers := wanted.containers.foldl mergeContainer live.containers }

/-- Of the pods' metadata only the labels are owned. -/
def PodTemplate.mergeMetadata (live wanted : Option Metadata) : Option Metadata :=
  wanted.elim live fun w =>
    let m := live.getD {}
    some { m with labels := mergeEntries m.labels w.labels }

def PodTemplate.merge (live wanted : PodTemplate) : PodTemplate where
  metadata := PodTemplate.mergeMetadata live.metadata wanted.metadata
  spec := wanted.spec.elim live.spec fun w => some ((live.spec.getD {}).merge w)

def DeploymentSpec.merge (live wanted : DeploymentSpec) : DeploymentSpec :=
  { live with replicas := wanted.replicas, template := live.template.merge wanted.template }

/-- The live Deployment with the owned fields of the wanted one. -/
def Deployment.merge (live wanted : Deployment) : Deployment :=
  { live with
    metadata := live.metadata.merge wanted.metadata
    spec := wanted.spec.elim live.spec fun w => some ((live.spec.getD {}).merge w) }

end ServerOperator
