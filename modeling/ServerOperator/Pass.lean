import ServerOperator.Duration
import ServerOperator.Pass.Status

/-!
# A pass

One round of work for a server: fetch it, check its spec, write back defaults or else apply its
children, look at what is live, and report that in its status. A pass that changed the spec ends there,
and the next one goes on. The first failed call ends a pass; an invalid spec is reported in the status
before the pass ends with its error.
-/

namespace ServerOperator

/-- How a pass ended that did not fail. -/
inductive Outcome where
  /-- Nothing is left to do until the next look. -/
  | done
  /-- Defaults were written. -/
  | requeueNow
  | requeueAfter (delay : Duration)
  deriving DecidableEq, Repr

def Outcome.label : Outcome → String
  | done => "resync"
  | requeueNow => "requeue-now"
  | requeueAfter _ => "requeue-after"

namespace Pass

def fetchFailed (key : Key) (f : StoreFailure) : OperatorError :=
  f.toError .fetchServer "Failed to fetch MCPServer" (OperatorError.serverContext key.name key.space)

def defaultsFailed (key : Key) (f : StoreFailure) : OperatorError :=
  f.toError .applyDefaults "Failed to persist defaulted spec" (OperatorError.serverContext key.name key.space)

/-- Report an invalid spec. Failures on the way only cost detail: they are no errors of the pass. -/
def report (s : Server) (e : OperatorError) : Program Unit := do
  Program.tally .validationFailures
  let r ← s.readiness.run
  let _ ← (s.writeStatus .failed e.message (r.toOption.getD {})).run

/-- End a pass with an error that lies in the spec. -/
def reject {α : Type} (s : Server) (e : OperatorError) : Attempt α :=
  ExceptT.mk (do report s e; return .error e)

/-- The pass of a server without open settings. -/
def converge (s : Server) : Attempt Outcome := do
  match ← monadLift (m := Program) s.applyChildren.run with
  | .error e => if e.isValidation then reject s e else throw e
  | .ok () =>
    let r ← s.readiness
    s.writeStatus r.phase r.message r
    return .done

/-- The pass of a server that was fetched by `key`. -/
def ofServer (key : Key) (s : Server) : Attempt Outcome := do
  match s.validate with
  | .error e => reject s e
  | .ok () =>
    let (filled, changed) := s.fillDefaults
    if changed then
      let _ ← Attempt.call (.replace .server key filled) (defaultsFailed key)
      return .requeueNow
    else converge filled

end Pass

/-- The pass of the server at `key`; one that is gone needs nothing. -/
def pass (key : Key) : Attempt Outcome := do
  match ← Attempt.call (.get .server key) (Pass.fetchFailed key) with
  | none => return .done
  | some s => Pass.ofServer key s

end ServerOperator
