import ServerOperator.Table

/-!
# Metrics

What the operator counts, and how long its passes took. A series of a labelled counter exists from its
first increment on.
-/

namespace ServerOperator

/-- One series of one counter. -/
inductive Counter where
  | reconciliations
  | reconciliationErrors
  | requeues (reason : String)
  | validationFailures
  | resourceOperations (kind operation : String)
  | statusUpdates (result : String)
  deriving DecidableEq, Repr

namespace Counter

/-- The counter a series belongs to. -/
def family : Counter → String
  | reconciliations => "mcp_operator_reconciliations_total"
  | reconciliationErrors => "mcp_operator_reconciliation_errors_total"
  | requeues _ => "mcp_operator_requeues_total"
  | validationFailures => "mcp_operator_validation_failures_total"
  | resourceOperations .. => "mcp_operator_resource_operations_total"
  | statusUpdates _ => "mcp_operator_status_updates_total"

/-- The labels of a series, in the order of their names. -/
def labels : Counter → List (String × String)
  | requeues reason => [("reason", reason)]
  | resourceOperations kind operation => [("kind", kind), ("operation", operation)]
  | statusUpdates result => [("result", result)]
  | _ => []

end Counter

structure Metrics where
  /-- Whether the metrics are shown to those who ask for them. -/
  registered : Bool := false
  /-- The value of each series that exists. Counters go up by one from zero in every process, so that 64 bits are
  never full. -/
  counts : Table Counter Nat := ∅
  /-- The length of each pass in seconds, in order. -/
  durations : List Float := []

namespace Metrics

def count (m : Metrics) (c : Counter) : Nat := (m.counts.get? c).getD 0

def increment (m : Metrics) (c : Counter) : Metrics :=
  { m with counts := m.counts.insert c (m.count c + 1) }

def incrementAll (m : Metrics) (cs : List Counter) : Metrics := cs.foldl increment m

def observe (m : Metrics) (seconds : Float) : Metrics :=
  { m with durations := m.durations ++ [seconds] }

/-- Show the metrics from now on. This can be done once. -/
def register (m : Metrics) : Except String Metrics :=
  if m.registered then .error "Duplicate metrics collector registration attempted"
  else .ok { m with registered := true }

/-- The series that grew from `old` to `m`, and by how much. -/
def increases (m old : Metrics) : List (Counter × Nat) :=
  (m.counts.entries.map fun (c, n) => (c, n - old.count c)).filter (·.2 ≠ 0)

end Metrics

end ServerOperator
