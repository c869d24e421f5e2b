import ServerOperator.Metadata

/-!
# Deployments

The object that keeps a number of equal pods running.
-/

namespace ServerOperator

open Json

structure ContainerPort where
  name : Option String := none
  containerPort : Int32 := 0
  hostIP : Option String := none
  hostPort : Option Int32 := none
  protocol : Option String := none
  deriving DecidableEq, Inhabited

/-- A key of a config map or of a secret, by the name of that object. -/
structure KeySelector where
  key : String := ""
  name : String := ""
  isOptional : Option Bool := none
  deriving DecidableEq, Inhabited

/-- A field of the pod itself. -/
structure FieldSelector where
  apiVersion : Option String := none
  fieldPath : String := ""
  deriving DecidableEq, Inhabited

/-- A limit or request of a container, as a number of units. -/
structure ResourceSelector where
  containerName : Option String := none
  divisor : Option String := none
  resource : String := ""
  deriving DecidableEq, Inhabited

/-- Where a variable without a value of its own takes it from. -/
structure EnvSource where
  configMapKey : Option KeySelector := none
  field : Option FieldSelector := none
  resourceField : Option ResourceSelector := none
  secretKey : Option KeySelector := none
  deriving DecidableEq, Inhabited

/-- An environment variable of a container; unlike a server's it may have no value. -/
structure ContainerEnv where
  name : String := ""
  value : Option String := none
  valueFrom : Option EnvSource := none
  deriving DecidableEq, Inhabited

/-- Quantities by resource name, and the names of claimed resources. -/
structure ContainerResources where
  requests : Option (SortedMap String) := none
  limits : Option (SortedMap String) := none
  claims : Option (List String) := none
  deriving DecidableEq, Inhabited

abbrev Container.foreignNames : List String :=
  ["envFrom", "imagePullPolicy", "lifecycle", "livenessProbe", "readinessProbe", "resizePolicy", "restartPolicy",
   "securityContext", "startupProbe", "stdin", "stdinOnce", "terminationMessagePolicy", "tty", "volumeDevices",
   "volumeMounts", "workingDir"]

structure Container where
  name : String := ""
  image : Option String := none
  command : Option (List String) := none
  args : Option (List String) := none
  terminationMessagePath : Option String := none
  ports : Option (List ContainerPort) := none
  env : Option (List ContainerEnv) := none
  resources : Option ContainerResources := none
  foreign : Foreign Container.foreignNames := ∅
  deriving DecidableEq, Inhabited

abbrev PodSpec.foreignNames : List String :=
  ["activeDeadlineSeconds", "affinity", "automountServiceAccountToken", "dnsConfig", "dnsPolicy",
   "enableServiceLinks", "ephemeralContainers", "hostAliases", "hostIPC", "hostNetwork", "hostPID", "hostUsers",
   "hostname", "nodeName", "os", "overhead", "preemptionPolicy", "priority", "priorityClassName", "readinessGates",
   "resourceClaims", "runtimeClassName", "schedulerName", "schedulingGates", "securityContext", "serviceAccount",
   "setHostnameAsFQDN", "shareProcessNamespace", "subdomain", "terminationGracePeriodSeconds", "tolerations",
   "topologySpreadConstraints", "volumes"]

structure PodSpec where
  serviceAccountName : Option String := none
  restartPolicy : Option String := none
  nodeSelector : Option (SortedMap String) := none
  /-- The names of the secrets used to pull images. -/
  imagePullSecrets : Option (List String) := none
  initContainers : Option (List Container) := none
  containers : List Container := []
  foreign : Foreign PodSpec.foreignNames := ∅
  deriving DecidableEq, Inhabited

structure PodTemplate where
  metadata : Option Metadata := none
  spec : Option PodSpec := none
  deriving DecidableEq, Inhabited

/-- Which pods belong to a deployment: those with all of these labels that meet what else is asked for. -/
structure LabelSelector where
  matchLabels : Option (SortedMap String) := none
  foreign : Foreign ["matchExpressions"] := ∅
  deriving DecidableEq, Inhabited

structure DeploymentStrategy where
  type : Option String := none
  foreign : Foreign ["rollingUpdate"] := ∅
  deriving DecidableEq, Inhabited

structure DeploymentSpec where
  replicas : Option Int32 := none
  selector : LabelSelector := {}
  minReadySeconds : Option Int32 := none
  paused : Option Bool := none
  progressDeadlineSeconds : Option Int32 := none
  revisionHistoryLimit : Option Int32 := none
  strategy : Option DeploymentStrategy := none
  template : PodTemplate := {}
  deriving DecidableEq, Inhabited

structure DeploymentStatus where
  replicas : Option Int32 := none
  readyReplicas : Option Int32 := none
  availableReplicas : Option Int32 := none
  unavailableReplicas : Option Int32 := none
  updatedReplicas : Option Int32 := none
  observedGeneration : Option Int64 := none
  collisionCount : Option Int32 := none
  foreign : Foreign ["conditions"] := ∅
  deriving DecidableEq, Inhabited

structure Deployment where
  metadata : Metadata := {}
  spec : Option DeploymentSpec := none
  status : Option DeploymentStatus := none
  deriving DecidableEq, Inhabited

namespace Deployment

def tag : TypeTag := ⟨"apps/v1", "Deployment"⟩

/-- Rolled out: some replicas are wanted and just as many are ready. -/
def isReady (d : Deployment) : Bool :=
  match d.spec.bind (·.replicas), d.status.bind (·.readyReplicas) with
  | some wanted, some ready => 0 < wanted && ready == wanted
  | _, _ => false

end Deployment

end ServerOperator
