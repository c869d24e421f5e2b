import ServerOperator.Decimal.Shortest
import ServerOperator.Metrics

/-!
# The text format of metrics

What a scrape returns: families in the order of their names, each with its help and type, and their
series in the order of their labels. A labelled counter without series is left out.
-/

namespace ServerOperator.Metrics

/-! ## Samples -/

/-- The shortest text of a number. -/
def numberText (x : Float) : String :=
  if x.isNaN then "NaN"
  else if x.isInf then (if x < 0 then "-inf" else "inf")
  else (Decimal.ofFloat x).positional

def escapeChar (c : Char) : List Char :=
  if c = '\\' then ['\\', '\\'] else if c = '"' then ['\\', '"'] else if c = '\n' then ['\\', 'n'] else [c]

def escape (s : String) : String := String.ofList (s.toList.flatMap escapeChar)

/-- A name and its labels. -/
def seriesText (name : String) (labels : List (String × String)) : String :=
  if labels.isEmpty then name
  else
    name ++ "\x7b" ++
      String.intercalate "," (labels.map fun (key, value) => key ++ "=\"" ++ escape value ++ "\"") ++ "\x7d"

def counterText (c : Counter) : String := seriesText c.family c.labels

/-! ## Families -/

inductive FamilyType where
  | counter
  | histogram

def FamilyType.name : FamilyType → String
  | counter => "counter"
  | histogram => "histogram"

structure Family where
  name : String
  help : String
  type : FamilyType
  /-- Whether the family is there before it has a series. -/
  always : Bool

def durationFamily : String := "mcp_operator_reconciliation_duration_seconds"

/-- All families, in the order of their names. -/
def families : List Family := [
  ⟨durationFamily, "Duration of reconciliation in seconds", .histogram, true⟩,
  ⟨"mcp_operator_reconciliation_errors_total", "Total number of reconciliation errors", .counter, true⟩,
  ⟨"mcp_operator_reconciliations_total", "Total number of reconciliations", .counter, true⟩,
  ⟨"mcp_operator_requeues_total", "Total number of requeues by reason", .counter, false⟩,
  ⟨"mcp_operator_resource_operations_total", "Total number of create/update operations on owned resources",
    .counter, false⟩,
  ⟨"mcp_operator_status_updates_total", "Total number of status updates by result", .counter, false⟩,
  ⟨"mcp_operator_validation_failures_total", "Total number of MCPServers rejected by validation", .counter,
    true⟩]

/-- The upper bounds of the buckets but for the last, which has none. -/
def bucketBounds : List Float := [0.01, 0.05, 0.1, 0.5, 1, 2, 5]

def durationSamples (m : Metrics) : List (String × String) :=
  let total := m.durations.length
  let bucket (bound : String) (n : Nat) :=
    (seriesText (durationFamily ++ "_bucket") [("le", bound)], toString n)
  bucketBounds.map (fun bound => bucket (numberText bound) (m.durations.countP (· ≤ bound))) ++
    [bucket "+Inf" total,
     (durationFamily ++ "_sum", numberText (m.durations.foldl (· + ·) 0)),
     (durationFamily ++ "_count", toString total)]

/-- Whether the first list of values stands before the second, or is the same. -/
def valuesBefore : List String → List String → Bool
  | [], _ => true
  | _ :: _, [] => false
  | a :: as, b :: bs => a < b || (a == b && valuesBefore as bs)

/-- Label values compare one after the other. -/
def labelsBefore (a b : Counter × Nat) : Bool :=
  valuesBefore (a.1.labels.map (·.2)) (b.1.labels.map (·.2))

def counterSamples (m : Metrics) (f : Family) : List (String × String) :=
  let series := m.counts.entries.filter (·.1.family == f.name)
  if series.isEmpty && f.always then [(f.name, "0")]
  else (series.mergeSort labelsBefore).map fun (c, n) => (counterText c, toString n)

def samples (m : Metrics) (f : Family) : List (String × String) :=
  match f.type with
  | .histogram => m.durationSamples
  | .counter => m.counterSamples f

def familyText (m : Metrics) (f : Family) : String :=
  let samples := m.samples f
  if samples.isEmpty then ""
  else
    "# HELP " ++ f.name ++ " " ++ f.help ++ "\n# TYPE " ++ f.name ++ " " ++ f.type.name ++ "\n" ++
      String.join (samples.map fun (series, value) => series ++ " " ++ value ++ "\n")

/-- The text of a scrape. Before registration there is nothing to show. -/
def text (m : Metrics) : String :=
  if m.registered then String.join (families.map m.familyText) else ""

end ServerOperator.Metrics
