import ServerOperator.Pass.Readiness

/-!
# Writing a status

The status is computed for the generation of the server as it is stored at that moment, and written
only if it differs from the stored one. A server that is gone needs no status.
-/

namespace ServerOperator

def ServerStatus.report (phase : Phase) (message : String) (r : Readiness) (generation : Option Int64) :
    ServerStatus where
  phase := some phase
  message := some message
  deploymentReady := r.deployment
  serviceReady := r.service
  ingressReady := r.ingress
  observedGeneration := generation

def Server.statusFailed (s : Server) (phase : Phase) (f : StoreFailure) : OperatorError :=
  f.toError .updateStatus "Failed to update MCPServer status" s.errorContext
    |>.withContext "phase" phase.name

/-- A call on behalf of a status; its failure is counted. -/
def Server.statusCall (s : Server) (phase : Phase) (c : Call) : Attempt c.Answer :=
  ExceptT.mk (Program.call c fun
    | .ok a => .done (.ok a)
    | .error f => .count (.statusUpdates "error") (.done (.error (s.statusFailed phase f))))

def Server.writeStatus (s : Server) (phase : Phase) (message : String) (r : Readiness) : Attempt Unit := do
  match ← s.statusCall phase (.get .server s.key) with
  | none => pure ()
  | some (latest : Server) =>
    let status := ServerStatus.report phase message r latest.metadata.generation
    if latest.status = some status then Attempt.tally (.statusUpdates "skipped")
    else
      s.statusCall phase (.patchStatus s.key status)
      Attempt.tally (.statusUpdates "written")

end ServerOperator
