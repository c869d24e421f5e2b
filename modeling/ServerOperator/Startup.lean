import ServerOperator.Api.Listing
import ServerOperator.Config
import ServerOperator.Log
import ServerOperator.OperatorError.Report

/-!
# Startup

The steps before the first watch: check the configuration, show the metrics, open the probes, find the
cluster, and report what servers there are already. Each step that cannot be done ends the startup but
the last: the controller tries again on its own.
-/

namespace ServerOperator.Startup

/-! ## Surroundings -/

/-- What the startup finds. -/
structure Surroundings where
  /-- Whether this process was started up before. -/
  again : Bool := false
  portTaken : Bool := false
  /-- Whether there is a cluster to connect to. -/
  cluster : Bool := true
  /-- What the cluster answers to the listing of servers, if it can be reached. -/
  listing : Option ApiResponse := none

inductive StartupError where
  | invalidConfig (cause : OperatorError)
  | metricsShown (cause : String)
  | probesFailed
  | probesLate (seconds : Nat)
  | noCluster

namespace StartupError

def message : StartupError → String
  | invalidConfig _ => "Invalid controller configuration"
  | metricsShown cause => cause
  | probesFailed => "HTTP server failed to start"
  | probesLate n => "HTTP server failed to become ready within " ++ toString n ++ " seconds"
  | noCluster => "Failed to create Kubernetes client"

/-- What lies below the message, if anything is known of it. -/
def cause? : StartupError → Option String
  | invalidConfig e => some e.describe
  | _ => none

end StartupError

/-! ## Reports -/

/-- The parts of the operator that report on a startup. -/
inductive Component where
  | startup
  | probes
  deriving DecidableEq, Repr

def Component.name : Component → String
  | startup => "mcp_runtime_operator::runtime::initialization"
  | probes => "mcp_runtime_operator::controller::server"

structure Line where
  component : Component
  event : Log.Event
  deriving DecidableEq, Repr

def say (level : Log.Level) (text : String) : Line := ⟨.startup, Log.line level text⟩

/-- The names of the servers in each namespace. -/
def byNamespace (servers : List Server) : SortedMap (List String) :=
  servers.foldl (fun m s => m.insert s.space ((m.get? s.space).getD [] ++ [s.name])) ∅

/-- Three names at most, and how many there are. -/
def summarize (names : List String) : String :=
  if names.length ≤ 3 then String.intercalate ", " names
  else
    String.intercalate ", " (names.take 3) ++ ", ... (" ++ toString names.length ++ " total)"

/-- What is said of the servers that are there. -/
def inventory (servers : List Server) : List Line :=
  let groups := (byNamespace servers).entries
  say .info ("CRD is queryable, found " ++ toString servers.length ++ " existing MCPServer resources in " ++
      toString groups.length ++ " namespaces") ::
    groups.map fun (space, names) =>
      say .info ("  " ++ space ++ " (" ++ toString names.length ++ "): " ++
        summarize (names.mergeSort (· ≤ ·)))

/-- What is said of the answer to the listing. -/
def listingReport (listing : Option ApiResponse) : List Line :=
  let listed : Except String (List Server) := match listing with
    | none => .error "the API server cannot be reached"
    | some r => ((r.readListing Server.ofJson?).map (·.items)).mapError (·.describe)
  match listed with
  | .ok servers => inventory servers
  | .error cause => [
    say .error ("CRD is not queryable; " ++ cause ++ ". Is the CRD installed?"),
    say .error "Installation: cargo run --bin crdgen | kubectl apply -f -",
    say .warn "Continuing despite CRD queryability check failure - controller will retry"]

/-! ## Steps -/

/-- The target that servers are listed and watched at. -/
def serversTarget (c : Config) : String := Target.collection .server c.watchNamespace

/-- The request for the servers that are there. -/
def listingTarget (c : Config) : String := Target.withQuery (serversTarget c) []

def scopeText (c : Config) : String :=
  match c.watchNamespace with
  | some space => "Watching MCPServer resources in namespace " ++ space
  | none => "Watching MCPServer resources in all namespaces"

/-- The lines of a startup, and the error that ended it if there was one. -/
structure Report where
  lines : List Line
  /-- The targets of the requests that reached the cluster. -/
  requests : List String := []
  error : Option StartupError := none

/-- Lines followed by the rest of a startup. -/
def Report.after (lines : List Line) (r : Report) : Report := { r with lines := lines ++ r.lines }

def openCluster (c : Config) (s : Surroundings) : Report :=
  if s.cluster then
    { lines := say .info (scopeText c) :: listingReport s.listing ++
        [say .info "Controller initialized, starting watch loop..."]
      requests := if s.listing.isSome then [listingTarget c] else [] }
  else { lines := [], error := some .noCluster }

/-- Open the probes. With no time to wait there is none to open them in. -/
def openProbes (c : Config) (s : Surroundings) : Report :=
  if c.serverStartupTimeoutSecs = 0 then { lines := [], error := some (.probesLate c.serverStartupTimeoutSecs.toNat) }
  else if s.portTaken then
    { lines := [⟨.probes, Log.line .error "HTTP server error: Address already in use (os error 98)"⟩]
      error := some .probesFailed }
  else
    .after [
      ⟨.probes, Log.line .info ("HTTP server listening on 0.0.0.0:" ++ toString c.metricsPort.toNat)⟩,
      say .info "HTTP server is ready and accepting connections"] (openCluster c s)

def greeting (s : Surroundings) : List Line :=
  (if s.again then [say .warn "rustls crypto provider was already installed"] else []) ++
    [say .info "Starting MCP runtime operator"]

/-- Start up, with the metrics as they are before and after. -/
def run (c : Config) (s : Surroundings) (m : Metrics) : Report × Metrics :=
  match c.validate with
  | .error e => ({ lines := greeting s, error := some (.invalidConfig e) }, m)
  | .ok () =>
    match m.register with
    | .error text => ({ lines := greeting s, error := some (.metricsShown text) }, m)
    | .ok m => (.after (greeting s) (openProbes c s), m)

/-- What is shown of the parts that a startup puts together. -/
def describe (ready : Bool) : String :=
  "InitializationResult \x7b server_ready: " ++ toString ready ++ ", .. \x7d"

end ServerOperator.Startup
