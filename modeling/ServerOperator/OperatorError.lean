import ServerOperator.SortedMap

/-!
# Operator errors

What can go wrong in a pass or a configuration: the kind of failure, a sentence for the reader, the
objects concerned, and the chain of causes below it.
-/

namespace ServerOperator

inductive ErrorCategory where
  | operator
  | config
  deriving DecidableEq, Repr

namespace ErrorCategory

/-- The number that log filters go by. -/
def code : ErrorCategory → String
  | operator => "73000"
  | config => "79000"

def description : ErrorCategory → String
  | operator => "Operator error"
  | config => "Configuration error"

end ErrorCategory

/-- The step that failed. -/
inductive ErrorKind where
  | fetchServer
  | applyDefaults
  | reconcileDeployment
  | reconcileService
  | reconcileIngress
  | checkReadiness
  | updateStatus
  | missingImage
  | missingIngressPath
  | invalidCpuRequest
  | invalidMemoryRequest
  | invalidCpuLimit
  | invalidMemoryLimit
  | invalidConfig
  deriving DecidableEq, Repr

namespace ErrorKind

def all : List ErrorKind :=
  [fetchServer, applyDefaults, reconcileDeployment, reconcileService, reconcileIngress, checkReadiness,
   updateStatus, missingImage, missingIngressPath, invalidCpuRequest, invalidMemoryRequest,
   invalidCpuLimit, invalidMemoryLimit, invalidConfig]

def name : ErrorKind → String
  | fetchServer => "FetchServer"
  | applyDefaults => "ApplyDefaults"
  | reconcileDeployment => "ReconcileDeployment"
  | reconcileService => "ReconcileService"
  | reconcileIngress => "ReconcileIngress"
  | checkReadiness => "CheckReadiness"
  | updateStatus => "UpdateStatus"
  | missingImage => "MissingImage"
  | missingIngressPath => "MissingIngressPath"
  | invalidCpuRequest => "InvalidCpuRequest"
  | invalidMemoryRequest => "InvalidMemoryRequest"
  | invalidCpuLimit => "InvalidCpuLimit"
  | invalidMemoryLimit => "InvalidMemoryLimit"
  | invalidConfig => "InvalidConfig"

def ofName? (s : String) : Option ErrorKind :=
  all.find? (·.name == s)

def summary : ErrorKind → String
  | fetchServer => "failed to fetch MCPServer"
  | applyDefaults => "failed to apply defaults"
  | reconcileDeployment => "failed to reconcile deployment"
  | reconcileService => "failed to reconcile service"
  | reconcileIngress => "failed to reconcile ingress"
  | checkReadiness => "failed to check resource readiness"
  | updateStatus => "failed to update status"
  | missingImage => "missing image"
  | missingIngressPath => "missing ingress path"
  | invalidCpuRequest => "invalid CPU request"
  | invalidMemoryRequest => "invalid memory request"
  | invalidCpuLimit => "invalid CPU limit"
  | invalidMemoryLimit => "invalid memory limit"
  | invalidConfig => "invalid controller configuration"

/-- Faults of the spec: trying again does not mend them, and the status reports them. -/
def isValidation : ErrorKind → Bool
  | missingImage | missingIngressPath | invalidCpuRequest | invalidMemoryRequest | invalidCpuLimit
  | invalidMemoryLimit => true
  | _ => false

def category : ErrorKind → ErrorCategory
  | invalidConfig => .config
  | _ => .operator

end ErrorKind

structure OperatorError where
  kind : ErrorKind
  message : String
  context : SortedMap String := ∅
  /-- Texts of the failures below this one, the outermost first. -/
  causes : List String := []
  deriving DecidableEq

namespace OperatorError

def category (e : OperatorError) : ErrorCategory := e.kind.category

def code (e : OperatorError) : String := e.category.code

def isValidation (e : OperatorError) : Bool := e.kind.isValidation

/-- Add a context entry, over an older one of the same key. -/
def withContext (e : OperatorError) (key value : String) : OperatorError :=
  { e with context := e.context.insert key value }

/-- The context of everything that concerns one server. -/
def serverContext (name space : String) : SortedMap String :=
  (∅ : SortedMap String).insert "mcpServer" name |>.insert "namespace" space

/-- The causes as one text. -/
def cause? (e : OperatorError) : Option String :=
  if e.causes.isEmpty then none else some (String.intercalate ": " e.causes)

end OperatorError

end ServerOperator
