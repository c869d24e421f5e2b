import ServerOperator.Schema
import ServerOperator.Server

/-!
# The schema of servers

What an API server admits as spec and status of a server, with what users are told of each member.
-/

namespace ServerOperator

namespace Schema

def described (description : String) : Notes := { description := some description }

/-- A member that may be left out or be `null`. -/
def optionalMember (description : String) : Notes := { description := some description, nullable := true }

/-- A flag that is false when left out. -/
def falseByDefault (description : String) : Schema :=
  .flag { description := some description, default := some (.bool false) }

/-- Several lines as one text. -/
def paragraphs (lines : List String) : String := String.intercalate "\n" lines

end Schema

open Schema

def EnvVar.schema : Schema :=
  .record (described "A single container environment variable")
    [("name", .text {}), ("value", .text { default := some (.string "") })] ["name"]

def ResourceList.schema : Schema :=
  .record (optionalMember "CPU and memory quantities, e.g. `cpu: 250m`, `memory: 256Mi`")
    [("cpu", .text { nullable := true }), ("memory", .text { nullable := true })] []

def ResourceRequirements.schema : Schema :=
  .record (optionalMember "CPU / memory requests and limits; unset values fall back to operator defaults")
    [("requests", ResourceList.schema), ("limits", ResourceList.schema)] []

def ServerSpec.description : String := paragraphs [
  "MCPServer Custom Resource Definition",
  "",
  "Declares a network-addressable MCP server. The operator converges every",
  "MCPServer into one Deployment, one Service and one Ingress of the same name",
  "in the same namespace, and reports their aggregate readiness on the status.",
  "",
  "# Example",
  "",
  "```yaml",
  "apiVersion: mcp-runtime.org/v1alpha1",
  "kind: MCPServer",
  "metadata:",
  "  name: demo",
  "  namespace: default",
  "spec:",
  "  image: registry.example.com/demo",
  "  imageTag: \"1.2.0\"",
  "  ingressHost: mcp.example.com",
  "  envVars:",
  "    - name: LOG_LEVEL",
  "      value: debug",
  "```",
  "",
  "Every optional field left unset is filled in by the operator on the first",
  "reconciliation pass and written back to the resource."]

def ServerSpec.schema : Schema :=
  .record (described ServerSpec.description) [
    ("image", .text {
      description := some "Container image without registry override, e.g. `nginx` or `team/server:1.0`"
      default := some (.string "") }),
    ("imageTag", .text (optionalMember (paragraphs [
      "Tag appended to `image` when the image does not already carry one",
      "Default: \"latest\" (only when the image has no tag)"]))),
    ("registryOverride", .text (optionalMember "Registry `host[:port]` placed in front of the image path")),
    ("replicas", .int32 (optionalMember (paragraphs ["Number of pod replicas", "Default: 1"]))),
    ("port", .int32 (optionalMember (paragraphs ["Container port the server listens on", "Default: 8088"]))),
    ("servicePort", .int32 (optionalMember (paragraphs [
      "Port exposed by the Service, forwarded to `port`", "Default: 80"]))),
    ("ingressHost", .text (optionalMember (paragraphs [
      "Host matched by the Ingress rule",
      "When set, `ingressPath` must be set as well. When unset the rule matches every host."]))),
    ("ingressPath", .text (optionalMember (paragraphs [
      "Path prefix routed to the Service", "Default: \"/<name>/mcp\""]))),
    ("ingressClass", .text (optionalMember (paragraphs ["IngressClass name", "Default: \"traefik\""]))),
    ("ingressAnnotations", .map
      (described "Extra Ingress annotations; these win over the operator's default entrypoint annotation")
      (.text {})),
    ("envVars", .list (described "Environment variables for the server container, in order") EnvVar.schema),
    ("imagePullSecrets", .list (described "Names of Secrets used to pull the image") (.text {})),
    ("resources", ResourceRequirements.schema)] []

/-- One of the names of a phase, or `null`. -/
def Phase.schema : Schema :=
  .anyOf (described (paragraphs ["Current phase", "Values: Pending, Ready, Failed"])) [
    .choice (described "Coarse-grained convergence state of an MCPServer") (Phase.all.map Phase.name),
    .onlyNull { nullable := true }]

def ServerStatus.description : String := paragraphs [
  "Status of the MCPServer resource",
  "",
  "Written only by the operator. Readiness flags are re-derived from the",
  "live cluster objects on every pass and never carried over.",
  "",
  "Fields are always serialized (no `skip_serializing_if`) so that a merge",
  "patch resets values from a previous pass, e.g. clearing `message`."]

def ServerStatus.schema : Schema :=
  .record (optionalMember ServerStatus.description) [
    ("phase", Phase.schema),
    ("message", .text (optionalMember (paragraphs [
      "Human-readable description of the current state",
      "Examples: \"All resources are ready\", \"ingressPath is required when ingressHost is set\""]))),
    ("deploymentReady", falseByDefault "Deployment exists and all desired replicas are ready"),
    ("serviceReady", falseByDefault "Service exists"),
    ("ingressReady", falseByDefault "Ingress exists"),
    ("observedGeneration", .int64 (optionalMember "`metadata.generation` this status was computed from"))] []

/-- A server without the parts that all objects have. -/
def Server.schema : Schema :=
  .record {
      title := some "MCPServer"
      description := some "Auto-generated derived type for MCPServerSpec via `CustomResource`" }
    [("spec", ServerSpec.schema), ("status", ServerStatus.schema)] ["spec"]

end ServerOperator
