import ServerOperator.Duration
import ServerOperator.OperatorError

/-!
# Configuration

The settings of the operator, what they are when nobody sets them, and which it cannot run with.
-/

namespace ServerOperator

structure Config where
  /-- The port of metrics and probes. -/
  metricsPort : UInt16 := 8080
  /-- The namespace that is watched; all of them when unset. -/
  watchNamespace : Option String := none
  resyncIntervalSecs : UInt64 := 300
  /-- The pause before the pass that follows written defaults. -/
  requeueNowDelayMs : UInt64 := 0
  backoffMinSecs : UInt64 := 5
  backoffMaxSecs : UInt64 := 300
  maxConcurrentReconciliations : UInt16 := 10
  serverStartupTimeoutSecs : UInt64 := 10
  serverPollIntervalMs : UInt64 := 50
  logFormat : String := "text"
  deriving DecidableEq, Repr, Inhabited

namespace Config

def resyncInterval (c : Config) : Duration := .ofSecs c.resyncIntervalSecs
def requeueNowDelay (c : Config) : Duration := .ofMillis c.requeueNowDelayMs
def serverStartupTimeout (c : Config) : Duration := .ofSecs c.serverStartupTimeoutSecs
def serverPollInterval (c : Config) : Duration := .ofMillis c.serverPollIntervalMs

/-! ## Validity -/

def invalid (setting message : String) : OperatorError :=
  { kind := .invalidConfig, message : OperatorError }.withContext "setting" setting

/-- The first setting that the operator cannot run with is the error. -/
def validate (c : Config) : Except OperatorError Unit :=
  if c.backoffMinSecs = 0 then
    .error (invalid "BACKOFF_MIN_SECS" "BACKOFF_MIN_SECS must be greater than zero")
  else if c.backoffMaxSecs < c.backoffMinSecs then
    .error (invalid "BACKOFF_MAX_SECS"
      ("BACKOFF_MAX_SECS (" ++ toString c.backoffMaxSecs.toNat ++ ") must not be below BACKOFF_MIN_SECS (" ++
        toString c.backoffMinSecs.toNat ++ ")"))
  else if c.maxConcurrentReconciliations = 0 then
    .error (invalid "MAX_CONCURRENT_RECONCILIATIONS" "MAX_CONCURRENT_RECONCILIATIONS must be greater than zero")
  else if c.logFormat ≠ "text" ∧ c.logFormat ≠ "json" then
    .error (invalid "LOG_FORMAT" ("LOG_FORMAT must be 'text' or 'json', got '" ++ c.logFormat ++ "'"))
  else .ok ()

end Config

end ServerOperator
