import ServerOperator.Service

/-!
# Ingresses

The object that leads requests from outside the cluster to services, by host and path.
-/

namespace ServerOperator

/-- A port of a service, by its name or its number. -/
structure BackendPort where
  name : Option String := none
  number : Option Int32 := none
  deriving DecidableEq, Inhabited

structure ServiceBackend where
  name : String := ""
  port : Option BackendPort := none
  deriving DecidableEq, Inhabited

/-- An object of the namespace, by group, kind and name. -/
structure ObjectReference where
  apiGroup : Option String := none
  kind : String := ""
  name : String := ""
  deriving DecidableEq, Inhabited

structure Backend where
  service : Option ServiceBackend := none
  resource : Option ObjectReference := none
  deriving DecidableEq, Inhabited

structure IngressPath where
  path : Option String := none
  pathType : String := ""
  backend : Backend := {}
  deriving DecidableEq, Inhabited

/-- The paths of one host, or of every host if none is named. -/
structure IngressRule where
  host : Option String := none
  http : Option (List IngressPath) := none
  deriving DecidableEq, Inhabited

structure IngressTls where
  hosts : Option (List String) := none
  secretName : Option String := none
  deriving DecidableEq, Inhabited

structure IngressSpec where
  ingressClassName : Option String := none
  tls : Option (List IngressTls) := none
  defaultBackend : Option Backend := none
  rules : Option (List IngressRule) := none
  deriving DecidableEq, Inhabited

structure IngressStatus where
  loadBalancer : Option (LoadBalancer ["ports"]) := none
  deriving DecidableEq, Inhabited

structure Ingress where
  metadata : Metadata := {}
  spec : Option IngressSpec := none
  status : Option IngressStatus := none
  deriving DecidableEq, Inhabited

namespace Ingress

def tag : TypeTag := ⟨"networking.k8s.io/v1", "Ingress"⟩

end Ingress

end ServerOperator
