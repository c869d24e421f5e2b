import ServerOperator.CommandLine
import ServerOperator.Config.Environment
import ServerOperator.Startup

/-!
# Invocations

How the operator ends when it is called where there is no cluster: it prints what it was asked for, or
it cannot make sense of its arguments, or it starts up and gives up.
-/

namespace ServerOperator

inductive Invocation where
  | printed (text : String)
  | misused (error : CommandLine.UsageError)
  /-- The operator ran; `json` tells the format of its log. -/
  | ran (json : Bool) (report : Startup.Report)

namespace Invocation

/-- The configuration of a call: arguments win over variables. -/
def config (settings : CommandLine.Settings) (env : Environment) : Config :=
  settings.apply (.ofEnvironment env)

/-- Start up without a cluster, with a log in the format that the configuration asks for. -/
def start (c : Config) : Invocation :=
  ran (c.logFormat == "json") (Startup.run c { cluster := false } {}).1

def ofArguments (arguments : List String) (env : Environment) : Invocation :=
  match CommandLine.parse arguments with
  | .error .help => printed CommandLine.helpText
  | .error .version => printed CommandLine.versionText
  | .error (.usage e) => misused e
  | .ok settings => start (config settings env)

/-! ## What is seen of it -/

def exitCode : Invocation → Nat
  | printed _ => 0
  | misused _ => 2
  | ran _ report => if report.error.isSome then 1 else 0

/-- An error as it is shown, with its cause below it. -/
def startupErrorText (e : Startup.StartupError) : String :=
  let below := match e.cause? with
    | some cause => "\n\nCaused by:\n    " ++ cause
    | none => ""
  "Error: " ++ e.message ++ below ++ "\n"

/-- The text of the error output, if there is any. -/
def errorText? : Invocation → Option String
  | printed _ => none
  | misused e => some e.text
  | ran _ report => report.error.map startupErrorText

def lineText (l : Startup.Line) : String :=
  l.event.level.name ++ " " ++ l.component.name ++ ": " ++ l.event.text ++ "\n"

def lineJson (l : Startup.Line) : Json := .object [
  ("level", .string l.event.level.name),
  ("fields", .object (l.event.fields.map fun (key, value) => (key, .string value))),
  ("target", .string l.component.name)]

/-- The text of the output. -/
def outputText : Invocation → String
  | printed text => text
  | misused _ => ""
  | ran true report => String.join (report.lines.map fun l => (lineJson l).render ++ "\n")
  | ran false report => String.join (report.lines.map lineText)

end Invocation

end ServerOperator
