import ServerOperator.Child.Service
import ServerOperator.Ingress

/-!
# The Ingress of a server

One rule that leads the server's path, on its host or on every host, to its Service. The operator owns
the class and the rules; certificates and the default backend are left to others.
-/

namespace ServerOperator

open Text (given?)

/-- The annotation that tells the ingress controller where requests come in. -/
def entrypointsAnnotation : String := "traefik.ingress.kubernetes.io/router.entrypoints"
def defaultEntrypoints : String := "web"

/-- The annotations of the Ingress: those of the spec over the default entrypoints. -/
def ServerSpec.annotations (s : ServerSpec) : SortedMap String :=
  ((∅ : SortedMap String).insert entrypointsAnnotation defaultEntrypoints).union s.ingressAnnotations

def Server.ingressPath (s : Server) : IngressPath where
  path := some ((given? s.spec.ingressPath).getD (Default.ingressPath s.name))
  pathType := "Prefix"
  backend := { service := some { name := s.name, port := some { number := some s.servicePort } } }

def Server.ingressSpec (s : Server) : IngressSpec where
  ingressClassName := some ((given? s.spec.ingressClass).getD Default.ingressClass)
  rules := some [{ host := given? s.spec.ingressHost, http := some [s.ingressPath] }]

/-- The Ingress that a server asks for. -/
def Server.ingress (s : Server) : Ingress where
  metadata := { s.childMetadata with annotations := some s.spec.annotations }
  spec := some s.ingressSpec

def IngressSpec.merge (live wanted : IngressSpec) : IngressSpec :=
  { live with ingressClassName := wanted.ingressClassName, rules := wanted.rules }

/-- The live Ingress with the owned fields of the wanted one. -/
def Ingress.merge (live wanted : Ingress) : Ingress :=
  { live with
    metadata := live.metadata.merge wanted.metadata
    spec := wanted.spec.elim live.spec fun w => some ((live.spec.getD {}).merge w) }

end ServerOperator
