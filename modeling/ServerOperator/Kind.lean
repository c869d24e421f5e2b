import ServerOperator.Child.Ingress
import ServerOperator.Deployment.Wire
import ServerOperator.Ingress.Wire
import ServerOperator.Server.Wire
import ServerOperator.Service.Wire

/-!
# Kinds of objects

The four kinds the operator reads and writes, each with the type of its objects, and the three among
them that are made for a server.
-/

namespace ServerOperator

/-- The place of an object among those of its kind. -/
structure Key where
  space : String
  name : String
  deriving DecidableEq, Repr, Inhabited

def Key.text (k : Key) : String := k.space ++ "/" ++ k.name

def Server.key (s : Server) : Key := ⟨s.space, s.name⟩

inductive Kind where
  | server
  | deployment
  | service
  | ingress
  deriving DecidableEq, Repr

namespace Kind

def all : List Kind := [server, deployment, service, ingress]

@[reducible] def Object : Kind → Type
  | server => Server
  | deployment => Deployment
  | service => Service
  | ingress => Ingress

instance : (k : Kind) → DecidableEq k.Object
  | server => inferInstanceAs (DecidableEq Server)
  | deployment => inferInstanceAs (DecidableEq Deployment)
  | service => inferInstanceAs (DecidableEq Service)
  | ingress => inferInstanceAs (DecidableEq Ingress)

def tag : Kind → TypeTag
  | server => Server.tag
  | deployment => Deployment.tag
  | service => Service.tag
  | ingress => Ingress.tag

/-- The kind as the API calls it. -/
def name (k : Kind) : String := k.tag.kind

def ofName? (s : String) : Option Kind := all.find? (·.name == s)

def metadata : (k : Kind) → k.Object → Metadata
  | server, o => Server.metadata o
  | deployment, o => Deployment.metadata o
  | service, o => Service.metadata o
  | ingress, o => Ingress.metadata o

def withMetadata : (k : Kind) → k.Object → Metadata → k.Object
  | server, o, m => { (o : Server) with metadata := m }
  | deployment, o, m => { (o : Deployment) with metadata := m }
  | service, o, m => { (o : Service) with metadata := m }
  | ingress, o, m => { (o : Ingress) with metadata := m }

def toJson : (k : Kind) → k.Object → Json
  | server, o => Server.toJson o
  | deployment, o => Deployment.toJson o
  | service, o => Service.toJson o
  | ingress, o => Ingress.toJson o

def ofJson? : (k : Kind) → Json → Except Mismatch k.Object
  | server, v => Server.ofJson? v
  | deployment, v => Deployment.ofJson? v
  | service, v => Service.ofJson? v
  | ingress, v => Ingress.ofJson? v

end Kind

/-- The objects made for a server. -/
inductive Child where
  | deployment
  | service
  | ingress
  deriving DecidableEq, Repr

namespace Child

/-- In the order in which they are written. -/
def all : List Child := [deployment, service, ingress]

@[reducible] def kind : Child → Kind
  | deployment => .deployment
  | service => .service
  | ingress => .ingress

/-- The name of the child in messages, metrics and error contexts. -/
def resource : Child → String
  | deployment => "deployment"
  | service => "service"
  | ingress => "ingress"

def errorKind : Child → ErrorKind
  | deployment => .reconcileDeployment
  | service => .reconcileService
  | ingress => .reconcileIngress

/-- The object that a server asks for. -/
def wanted : (c : Child) → Server → Except OperatorError c.kind.Object
  | deployment, s => s.deployment
  | service, s => .ok s.service
  | ingress, s => .ok s.ingress

/-- The live object with the owned fields of the wanted one. -/
def merge : (c : Child) → (live wanted : c.kind.Object) → c.kind.Object
  | deployment, live, wanted => Deployment.merge live wanted
  | service, live, wanted => Service.merge live wanted
  | ingress, live, wanted => Ingress.merge live wanted

/-- What a look at the live object says: a Deployment has to be rolled out, the others have to be there. -/
def isReady : (c : Child) → Option c.kind.Object → Bool
  | deployment, live => (live : Option Deployment).any Deployment.isReady
  | service, live => live.isSome
  | ingress, live => live.isSome

end Child

end ServerOperator
