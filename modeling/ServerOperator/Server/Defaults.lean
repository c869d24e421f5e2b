import ServerOperator.Image
import ServerOperator.Server

/-!
# Defaults

The values of settings that a server leaves open. Texts are open when unset or blank, ports when unset
or zero, and replicas only when unset: zero replicas is a wish of its own.
-/

namespace ServerOperator

namespace Default

def replicas : Int32 := 1
def port : Int32 := 8088
def servicePort : Int32 := 80
def imageTag : String := "latest"
def ingressClass : String := "traefik"

def ingressPath (name : String) : String :=
  "/" ++ name ++ "/mcp"

def cpuRequest : String := "100m"
def memoryRequest : String := "128Mi"
def cpuLimit : String := "500m"
def memoryLimit : String := "512Mi"

end Default

namespace ServerSpec

/-- A number that has to be set and not zero, and whether it was filled in. -/
def fillPort (default : Int32) (given : Option Int32) : Option Int32 × Bool :=
  match given with
  | some n => if n = 0 then (some default, true) else (some n, false)
  | none => (some default, true)

/-- A text that must not be blank, and whether it was filled in. -/
def fillText (default : String) (given : Option String) : Option String × Bool :=
  match given with
  | some s => if Text.isBlank s then (some default, true) else (some s, false)
  | none => (some default, true)

/-- Fill in what a server called `name` leaves open, and say whether anything was. An image with a tag or
digest needs no tag, and without a name there is no path to propose. -/
def fillDefaults (name : String) (s : ServerSpec) : ServerSpec × Bool :=
  let (replicas, replicasFilled) :=
    match s.replicas with
    | some n => (some n, false)
    | none => (some Default.replicas, true)
  let (port, portFilled) := fillPort Default.port s.port
  let (servicePort, servicePortFilled) := fillPort Default.servicePort s.servicePort
  let (imageTag, imageTagFilled) :=
    if Image.hasTag s.image then (s.imageTag, false) else fillText Default.imageTag s.imageTag
  let (ingressPath, ingressPathFilled) :=
    if name = "" then (s.ingressPath, false) else fillText (Default.ingressPath name) s.ingressPath
  let (ingressClass, ingressClassFilled) := fillText Default.ingressClass s.ingressClass
  ({ s with replicas, port, servicePort, imageTag, ingressPath, ingressClass },
   replicasFilled || portFilled || servicePortFilled || imageTagFilled || ingressPathFilled ||
     ingressClassFilled)

end ServerSpec

/-- Fill in what the server leaves open, and say whether anything was. -/
def Server.fillDefaults (s : Server) : Server × Bool :=
  let (spec, filled) := s.spec.fillDefaults s.name
  ({ s with spec }, filled)

end ServerOperator
