import ServerOperator.Api.Cluster
import ServerOperator.Api.Fault
import ServerOperator.Api.Listing
import ServerOperator.Api.Request
import ServerOperator.Api.Response
import ServerOperator.Api.Scripted
import ServerOperator.Api.Target
import ServerOperator.Backoff
import ServerOperator.Child.Deployment
import ServerOperator.Child.Ingress
import ServerOperator.Child.Metadata
import ServerOperator.Child.Service
import ServerOperator.CommandLine
import ServerOperator.Config
import ServerOperator.Config.Environment
import ServerOperator.Config.Report
import ServerOperator.Controller
import ServerOperator.Decimal
import ServerOperator.Decimal.Shortest
import ServerOperator.Deployment
import ServerOperator.Deployment.Wire
import ServerOperator.Duration
import ServerOperator.Image
import ServerOperator.Ingress
import ServerOperator.Ingress.Wire
import ServerOperator.Invocation
import ServerOperator.Json
import ServerOperator.Json.MergePatch
import ServerOperator.Json.Foreign
import ServerOperator.Json.Mismatch
import ServerOperator.Json.Parser
import ServerOperator.Json.Pointer
import ServerOperator.Json.Printer
import ServerOperator.Json.Reader
import ServerOperator.Kind
import ServerOperator.Log
import ServerOperator.Main
import ServerOperator.Metadata
import ServerOperator.Metadata.Wire
import ServerOperator.Metrics
import ServerOperator.Metrics.Exposition
import ServerOperator.OperatorError
import ServerOperator.OperatorError.Report
import ServerOperator.Pass
import ServerOperator.Pass.Apply
import ServerOperator.Pass.Readiness
import ServerOperator.Pass.Status
import ServerOperator.Probe
import ServerOperator.Proofs.Endings
import ServerOperator.Proofs.Faults
import ServerOperator.Proofs.Fixpoint
import ServerOperator.Proofs.Gating
import ServerOperator.Proofs.Merging
import ServerOperator.Proofs.ReadBack
import ServerOperator.Proofs.Refusal
import ServerOperator.Proofs.Retry
import ServerOperator.Proofs.Runs
import ServerOperator.Proofs.Settling
import ServerOperator.Proofs.Transient
import ServerOperator.Proofs.Writes
import ServerOperator.Quantity
import ServerOperator.Schema
import ServerOperator.Server
import ServerOperator.Server.Defaults
import ServerOperator.Server.Definition
import ServerOperator.Server.Schema
import ServerOperator.Server.Validation
import ServerOperator.Server.Wire
import ServerOperator.Service
import ServerOperator.Service.Wire
import ServerOperator.SortedMap
import ServerOperator.Startup
import ServerOperator.Store.Memory
import ServerOperator.Store.Program
import ServerOperator.Table
import ServerOperator.Text.Blank
import ServerOperator.Text.DecimalDigit
import ServerOperator.Text.Numeral
import ServerOperator.Text.Quoted
import ServerOperator.Text.Terminal
import ServerOperator.Text.Unprintable
import ServerOperator.Timestamp
import ServerOperator.WatchError
import ServerOperator.WatchLoop
import ServerOperator.WatchLoop.Change
import ServerOperator.WatchLoop.Listening
import ServerOperator.WatchLoop.Notice
import ServerOperator.WatchLoop.State
import ServerOperator.WatchLoop.Stream
import ServerOperator.Yaml
import ServerOperator.Proofs.Protocol
import ServerOperator.Proofs.Sharing
import ServerOperator.Proofs.Conflicts
import ServerOperator.Proofs.Observation
import ServerOperator.Proofs.Reporting
import ServerOperator.Proofs.Wiring
import ServerOperator.Proofs.Drift
import ServerOperator.Proofs.Ownership
import ServerOperator.Proofs.Histories
import ServerOperator.Proofs.Lockstep
import ServerOperator.Proofs.Isolation
import ServerOperator.Proofs.Boundary
import ServerOperator.Proofs.Streaks
import ServerOperator.Proofs.Blame
import ServerOperator.Proofs.Limits
import ServerOperator.Proofs.Consistency
import ServerOperator.Proofs.Ledger
import ServerOperator.Proofs.StatusPatch
import ServerOperator.Proofs.WireFormat
import ServerOperator.Proofs.Quantities
import ServerOperator.Proofs.References
import ServerOperator.Proofs.RoundTrip
import ServerOperator.Proofs.Selectors
import ServerOperator.Proofs.Synthesis
import ServerOperator.Proofs.Tagging
import ServerOperator.Proofs.Deadlines
import ServerOperator.Proofs.Scope
import ServerOperator.Proofs.LogLines
import ServerOperator.Proofs.Expiry
import ServerOperator.Proofs.Delays
import ServerOperator.Proofs.Idempotence
