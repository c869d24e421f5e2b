/-!
# Log events

What the operator reports to whoever runs it. The field `message` is the text of an event.
-/

namespace ServerOperator.Log

inductive Level where
  | info
  | warn
  | error
  deriving DecidableEq, Repr

def Level.name : Level → String
  | info => "INFO"
  | warn => "WARN"
  | error => "ERROR"

structure Event where
  level : Level
  fields : List (String × String)
  deriving DecidableEq, Repr

namespace Event

/-- The text of an event. -/
def text (e : Event) : String :=
  ((e.fields.find? (·.1 == "message")).map (·.2)).getD ""

end Event

/-- A plain line of text. -/
def line (level : Level) (text : String) : Event :=
  ⟨level, [("message", text)]⟩

end ServerOperator.Log
