import ServerOperator.Child.Deployment
import ServerOperator.Service

/-!
# The Service of a server

A cluster address that leads to the container's port. The operator owns its type, selector and ports;
the addresses are the cluster's to give.
-/

namespace ServerOperator

def Server.servicePort (s : Server) : Int32 :=
  s.spec.servicePort.getD Default.servicePort

def Server.serviceSpec (s : Server) : ServiceSpec where
  type := some "ClusterIP"
  selector := some ((∅ : SortedMap String).insert appLabel s.name)
  ports := some [{
    name := some httpPortName
    port := s.servicePort
    targetPort := some (.number (s.spec.port.getD Default.port))
    protocol := some "TCP" }]

/-- The Service that a server asks for. -/
def Server.service (s : Server) : Service where
  metadata := s.childMetadata
  spec := some s.serviceSpec

def ServiceSpec.merge (live wanted : ServiceSpec) : ServiceSpec :=
  { live with type := wanted.type, selector := wanted.selector, ports := wanted.ports }

/-- The live Service with the owned fields of the wanted one. -/
def Service.merge (live wanted : Service) : Service :=
  { live with
    metadata := live.metadata.merge wanted.metadata
    spec := wanted.spec.elim live.spec fun w => some ((live.spec.getD {}).merge w) }

end ServerOperator
