import ServerOperator.Pass.Apply

/-!
# Readiness

Which children of a server are ready, read from the live objects each time. A missing child is not
ready; only a failed read is an error.
-/

namespace ServerOperator

structure Readiness where
  deployment : Bool := false
  service : Bool := false
  ingress : Bool := false
  deriving DecidableEq, Repr, Inhabited

namespace Readiness

def get (r : Readiness) : Child → Bool
  | .deployment => r.deployment
  | .service => r.service
  | .ingress => r.ingress

def all (r : Readiness) : Bool := Child.all.all r.get

/-- Never `failed`: that phase belongs to invalid specs. -/
def phase (r : Readiness) : Phase := if r.all then .ready else .pending

/-- What a status says of the children that are waited for. -/
def message (r : Readiness) : String :=
  if r.all then "All resources reconciled"
  else
    "Waiting for " ++ String.intercalate ", " ((Child.all.filter (!r.get ·)).map (·.resource)) ++
      " to become ready"

end Readiness

def Child.readFailed (c : Child) (server : Server) (f : StoreFailure) : OperatorError :=
  f.toError .checkReadiness ("Failed to check " ++ c.resource ++ " readiness") server.errorContext
    |>.withContext "resource" c.resource

/-- Look at one live child. -/
def Child.readiness (c : Child) (server : Server) : Attempt Bool := do
  return c.isReady (← Attempt.call (.get c.kind server.key) (c.readFailed server))

def Server.readiness (s : Server) : Attempt Readiness := do
  return {
    deployment := ← Child.deployment.readiness s
    service := ← Child.service.readiness s
    ingress := ← Child.ingress.readiness s }

end ServerOperator
