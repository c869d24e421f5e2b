import ServerOperator.Metadata

/-!
# Services

The object that gives the pods selected by labels one address inside the cluster.
-/

namespace ServerOperator

open Json

/-- A port by number, or by the name it has in the pod. -/
inductive TargetPort where
  | number (n : Int32)
  | name (s : String)
  deriving DecidableEq, Inhabited

structure ServicePort where
  name : Option String := none
  port : Int32 := 0
  targetPort : Option TargetPort := none
  nodePort : Option Int32 := none
  protocol : Option String := none
  appProtocol : Option String := none
  deriving DecidableEq, Inhabited

abbrev ServiceSpec.foreignNames : List String :=
  ["allocateLoadBalancerNodePorts", "externalIPs", "externalTrafficPolicy", "healthCheckNodePort",
   "internalTrafficPolicy", "ipFamilies", "ipFamilyPolicy", "loadBalancerClass", "loadBalancerIP",
   "loadBalancerSourceRanges", "publishNotReadyAddresses", "sessionAffinityConfig", "trafficDistribution"]

structure ServiceSpec where
  type : Option String := none
  clusterIP : Option String := none
  clusterIPs : Option (List String) := none
  sessionAffinity : Option String := none
  externalName : Option String := none
  selector : Option (SortedMap String) := none
  ports : Option (List ServicePort) := none
  foreign : Foreign ServiceSpec.foreignNames := ∅
  deriving DecidableEq, Inhabited

/-- An address of an object, with what else objects of its type say of one. -/
structure LoadBalancerAddress (names : List String) where
  ip : Option String := none
  hostname : Option String := none
  foreign : Foreign names := ∅
  deriving DecidableEq, Inhabited

/-- The addresses under which a load balancer reaches an object. -/
structure LoadBalancer (names : List String) where
  ingress : Option (List (LoadBalancerAddress names)) := none
  deriving DecidableEq, Inhabited

structure ServiceStatus where
  loadBalancer : Option (LoadBalancer ["ipMode", "ports"]) := none
  foreign : Foreign ["conditions"] := ∅
  deriving DecidableEq, Inhabited

structure Service where
  metadata : Metadata := {}
  spec : Option ServiceSpec := none
  status : Option ServiceStatus := none
  deriving DecidableEq, Inhabited

namespace Service

def tag : TypeTag := ⟨"v1", "Service"⟩

end Service

end ServerOperator
