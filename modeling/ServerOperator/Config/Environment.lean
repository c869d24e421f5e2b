import ServerOperator.Config
import ServerOperator.Text.Blank
import ServerOperator.Text.Numeral

/-!
# Configuration from environment variables

A variable that does not hold a number of its size counts as not set.
-/

namespace ServerOperator

/-- The variables that are set. -/
abbrev Environment := SortedMap String

namespace Environment

def natural (env : Environment) (key : String) (limit default : Nat) : Nat :=
  match (env.get? key).map fun s => Text.readUnsigned limit (Text.trim s) with
  | some (.ok n) => n
  | _ => default

def uint16 (env : Environment) (key : String) (default : UInt16) : UInt16 :=
  .ofNat (env.natural key (UInt16.size - 1) default.toNat)

def uint64 (env : Environment) (key : String) (default : UInt64) : UInt64 :=
  .ofNat (env.natural key (UInt64.size - 1) default.toNat)

end Environment

/-- The variables of the configuration. -/
def Config.variables : List String :=
  ["METRICS_PORT", "WATCH_NAMESPACE", "RESYNC_INTERVAL_SECS", "REQUEUE_NOW_DELAY_MS", "BACKOFF_MIN_SECS",
   "BACKOFF_MAX_SECS", "MAX_CONCURRENT_RECONCILIATIONS", "SERVER_STARTUP_TIMEOUT_SECS",
   "SERVER_POLL_INTERVAL_MS", "LOG_FORMAT"]

/-- The configuration that an environment asks for. A blank namespace is none; one that is not blank is
kept as it is. -/
def Config.ofEnvironment (env : Environment) : Config :=
  let d : Config := {}
  { metricsPort := env.uint16 "METRICS_PORT" d.metricsPort
    watchNamespace := (env.get? "WATCH_NAMESPACE").filter (!Text.isBlank ·)
    resyncIntervalSecs := env.uint64 "RESYNC_INTERVAL_SECS" d.resyncIntervalSecs
    requeueNowDelayMs := env.uint64 "REQUEUE_NOW_DELAY_MS" d.requeueNowDelayMs
    backoffMinSecs := env.uint64 "BACKOFF_MIN_SECS" d.backoffMinSecs
    backoffMaxSecs := env.uint64 "BACKOFF_MAX_SECS" d.backoffMaxSecs
    maxConcurrentReconciliations := env.uint16 "MAX_CONCURRENT_RECONCILIATIONS" d.maxConcurrentReconciliations
    serverStartupTimeoutSecs := env.uint64 "SERVER_STARTUP_TIMEOUT_SECS" d.serverStartupTimeoutSecs
    serverPollIntervalMs := env.uint64 "SERVER_POLL_INTERVAL_MS" d.serverPollIntervalMs
    logFormat := (env.get? "LOG_FORMAT").getD d.logFormat }

end ServerOperator
