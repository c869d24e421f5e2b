import ServerOperator.Config
import ServerOperator.Text.Quoted

/-!
# Configurations as text

All settings by name in one line, for those who look into a running operator.
-/

namespace ServerOperator

def Config.describe (c : Config) : String :=
  let watched := match c.watchNamespace with
    | none => "None"
    | some ns => "Some(" ++ Text.quote ns ++ ")"
  let settings := [
    ("metrics_port", toString c.metricsPort.toNat),
    ("watch_namespace", watched),
    ("resync_interval_secs", toString c.resyncIntervalSecs.toNat),
    ("requeue_now_delay_ms", toString c.requeueNowDelayMs.toNat),
    ("backoff_min_secs", toString c.backoffMinSecs.toNat),
    ("backoff_max_secs", toString c.backoffMaxSecs.toNat),
    ("max_concurrent_reconciliations", toString c.maxConcurrentReconciliations.toNat),
    ("server_startup_timeout_secs", toString c.serverStartupTimeoutSecs.toNat),
    ("server_poll_interval_ms", toString c.serverPollIntervalMs.toNat),
    ("log_format", Text.quote c.logFormat)]
  "ControllerConfig \x7b " ++
    String.intercalate ", " (settings.map fun (name, value) => name ++ ": " ++ value) ++ " \x7d"

end ServerOperator
