import ServerOperator.Metadata

/-!
# Servers

The custom resource that the operator serves. A `Server` declares a program to run and how it is
reached; the operator turns it into a Deployment, a Service and an Ingress and writes back a status.
-/

namespace ServerOperator

/-- An environment variable of the server's container. -/
structure EnvVar where
  name : String
  value : String := ""
  deriving DecidableEq, Inhabited

/-- CPU and memory quantities. -/
structure ResourceList where
  cpu : Option String := none
  memory : Option String := none
  deriving DecidableEq, Inhabited

/-- Requests and limits of the server's container; each of the four values is set on its own. -/
structure ResourceRequirements where
  requests : Option ResourceList := none
  limits : Option ResourceList := none
  deriving DecidableEq, Inhabited

structure ServerSpec where
  image : String := ""
  imageTag : Option String := none
  registryOverride : Option String := none
  replicas : Option Int32 := none
  port : Option Int32 := none
  servicePort : Option Int32 := none
  ingressHost : Option String := none
  ingressPath : Option String := none
  ingressClass : Option String := none
  ingressAnnotations : SortedMap String := ∅
  envVars : List EnvVar := []
  imagePullSecrets : List String := []
  resources : Option ResourceRequirements := none
  deriving DecidableEq, Inhabited

inductive Phase where
  /-- Children are being created or are not ready. -/
  | pending
  /-- Every child is ready. -/
  | ready
  /-- The last pass stopped at an invalid spec. -/
  | failed
  deriving DecidableEq, Repr, Inhabited

namespace Phase

def all : List Phase := [pending, ready, failed]

def name : Phase → String
  | pending => "Pending"
  | ready => "Ready"
  | failed => "Failed"

def ofName? (s : String) : Option Phase :=
  all.find? (·.name == s)

end Phase

structure ServerStatus where
  phase : Option Phase := none
  message : Option String := none
  deploymentReady : Bool := false
  serviceReady : Bool := false
  ingressReady : Bool := false
  /-- The generation of the spec that the status was computed from. -/
  observedGeneration : Option Int64 := none
  deriving DecidableEq, Inhabited

structure Server where
  metadata : Metadata := {}
  spec : ServerSpec := {}
  status : Option ServerStatus := none
  deriving DecidableEq, Inhabited

namespace Server

def tag : TypeTag := ⟨"mcp-runtime.org/v1alpha1", "MCPServer"⟩

/-- The name shared by the server and its children. -/
def name (s : Server) : String := s.metadata.anyName

def space (s : Server) : String := s.metadata.space

end Server

end ServerOperator
