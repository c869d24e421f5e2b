import ServerOperator.Log

/-!
# Watch errors

What went wrong with a watch, told from the text of the error alone, and what the log says of it. The
watch tries again on its own.
-/

namespace ServerOperator

inductive WatchError where
  /-- Access was revoked, or a token has expired. -/
  | unauthorized
  /-- The version to watch from is no longer kept. -/
  | expired
  /-- The API server has too much to do. -/
  | throttled
  /-- The resource type or the object does not exist. -/
  | notFound
  | other
  deriving DecidableEq, Repr

namespace WatchError

def name : WatchError → String
  | unauthorized => "Unauthorized"
  | expired => "Expired"
  | throttled => "Throttled"
  | notFound => "NotFound"
  | other => "Other"

/-! ## Classes -/

/-- Whether `marker` occurs in a text. -/
def occurs (marker : List Char) : List Char → Bool
  | [] => marker.isEmpty
  | c :: cs => marker.isPrefixOf (c :: cs) || occurs marker cs

def mentions (text marker : String) : Bool := occurs marker.toList text.toList

/-- The texts by which each class is known, in the order in which the classes are tried. -/
def markers : List (WatchError × List String) := [
  (notFound, ["ObjectNotFound", "404", "not found"]),
  (unauthorized, ["401", "Unauthorized"]),
  (expired, ["410", "too old resource version", "Expired", "Gone"]),
  (throttled, ["429", "storage is (re)initializing", "TooManyRequests"])]

def classify (text : String) : WatchError :=
  match markers.find? fun (_, l) => l.any (mentions text) with
  | some (c, _) => c
  | none => other

/-! ## Log -/

/-- What is logged of an error. -/
def events (text : String) : List Log.Event :=
  match classify text with
  | unauthorized => [
    Log.line .error "❌ Watch authentication failed (401 Unauthorized) - RBAC may have been revoked or token expired",
    Log.line .error "   Verify the operator's ClusterRole still grants list/watch on mcpservers, deployments, services and ingresses"]
  | expired =>
    [⟨.warn, [("message", "watch.error.resource_version_expired"), ("error_type", "410")]⟩]
  | throttled =>
    [Log.line .warn "API server throttling or reinitializing storage (429), watcher will back off"]
  | notFound =>
    [Log.line .warn ("Resource not found (404) - is the MCPServer CRD installed? Error: " ++ text)]
  | other => [Log.line .error ("Controller stream error: " ++ text)]

end WatchError

end ServerOperator
