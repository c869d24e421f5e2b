import ServerOperator.Log
import ServerOperator.OperatorError
import ServerOperator.Text.Quoted

/-!
# Reports of operator errors

An error as one line of text, and as a log event whose fields a log store can filter on.
-/

namespace ServerOperator.OperatorError

open Text (quote)

/-- The context entries as they are, in key order, between braces. -/
def contextText (e : OperatorError) : String :=
  "\x7b" ++ String.intercalate ", " (e.context.entries.map fun (key, value) => key ++ "=" ++ value) ++ "\x7d"

/-- Code, description, message, context and causes; message and causes are quoted. -/
def describe (e : OperatorError) : String :=
  "code=" ++ e.code ++ " | description=" ++ quote e.category.description ++ " | message=" ++ quote e.message ++
  (if e.context.isEmpty then "" else " | context=" ++ e.contextText) ++
  (match e.cause? with
   | none => ""
   | some cause => " | cause=" ++ quote cause)

/-- What the controller says about a pass that ended with the error. -/
def passFailure (e : OperatorError) : String :=
  "Reconciliation failed: " ++ e.message

/-- The context entries that have a field of their own in the log. -/
def loggedContext : List String :=
  ["mcpServer", "namespace", "resource", "operation", "field", "value", "phase", "setting"]

def event (e : OperatorError) (text : String) : Log.Event where
  level := .error
  fields :=
    [("message", text), ("error.code", e.code), ("error.category", e.category.description),
     ("error.kind", e.kind.name), ("error.message", e.message)] ++
    loggedContext.filterMap (fun key => (e.context.get? key).map fun value => ("error.context." ++ key, value)) ++
    (e.cause?.toList.map fun cause => ("error.cause", cause))

end ServerOperator.OperatorError
