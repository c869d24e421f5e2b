import ServerOperator.Invocation
import ServerOperator.Server.Definition

/-!
# Entry points

The operator, and the writer of the installation file.
-/

namespace ServerOperator

/-- The variables of the configuration that are set. -/
def readEnvironment : IO Environment := do
  let entries ← Config.variables.filterMapM fun name => do
    return (← IO.getEnv name).map (name, ·)
  return .ofList entries

/-- Print the installation file. -/
def printDefinition : IO Unit := IO.print Server.Definition.file

end ServerOperator

open ServerOperator in
def main (arguments : List String) : IO UInt32 := do
  let invocation := Invocation.ofArguments arguments (← readEnvironment)
  IO.print invocation.outputText
  if let some text := invocation.errorText? then IO.eprint text
  return .ofNat invocation.exitCode
