import ServerOperator.Controller
import ServerOperator.WatchError
import ServerOperator.WatchLoop.Stream

/-!
# The state of the watch loop

What the loop knows at a moment: the servers it has heard of, when each is due for a pass, and how far
the streams are that it hears of changes by.
-/

namespace ServerOperator

structure WatchLoop where
  /-- In milliseconds since the loop began. -/
  now : Nat := 0
  /-- The moment the loop began. -/
  began : Timestamp
  controller : Controller Cluster
  changes : List Change
  streams : Table Kind WatchStream := ⟨Kind.all.map (·, {})⟩
  /-- The streams that can go on, in their order. -/
  ready : List Kind := Kind.all
  /-- The streams that have asked the API server, and go on after all that can go on now. -/
  asked : List Kind := []
  pauses : Pauses := {}
  /-- The servers as last heard of. -/
  watched : Table Key Server := ∅
  /-- The servers of a listing that is not complete yet. -/
  gathered : Table Key Server := ∅
  /-- Whether the servers were listed; no pass is made before. -/
  listed : Bool := false
  /-- When each server is due for a pass, in milliseconds. -/
  due : Table Key Nat := ∅
  /-- The targets that were listed and watched, in order. -/
  targets : List String := []
  /-- Whether the operator says that it is ready. -/
  isReady : Bool := true
  log : List Log.Event := []

namespace WatchLoop

def scope (l : WatchLoop) : Option String := l.controller.config.watchNamespace

def cluster (l : WatchLoop) : Cluster := l.controller.store

def withCluster (l : WatchLoop) (c : Cluster) : WatchLoop :=
  { l with controller := { l.controller with store := c } }

def stream (l : WatchLoop) (kind : Kind) : WatchStream := (l.streams.get? kind).getD {}

def withStream (l : WatchLoop) (kind : Kind) (s : WatchStream) : WatchLoop :=
  { l with streams := l.streams.insert kind s }

def withStage (l : WatchLoop) (kind : Kind) (stage : StreamStage) : WatchLoop :=
  l.withStream kind { l.stream kind with stage }

/-- Log that something about a watch failed. -/
def report (l : WatchLoop) (text : String) : WatchLoop :=
  { l with log := l.log ++ WatchError.events text }

/-- Ask for a pass; of two moments the earlier one counts. -/
def schedule (l : WatchLoop) (time : Nat) (key : Key) : WatchLoop :=
  { l with due := l.due.insert key (match l.due.get? key with
      | some t => min t time
      | none => time) }

end WatchLoop

end ServerOperator
