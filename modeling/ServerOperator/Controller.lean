import ServerOperator.Backoff
import ServerOperator.Config.Report
import ServerOperator.Metrics
import ServerOperator.Pass
import ServerOperator.Timestamp

/-!
# The controller

Passes and what follows from them: when a server is looked at again, how long a failing one waits, and
what is counted. Every server has a failure streak of its own, which ends with a pass that succeeds.
-/

namespace ServerOperator

/-- When to look again after a pass that did not fail. -/
def Outcome.delay (config : Config) : Outcome → Duration
  | done => config.resyncInterval
  | requeueNow => config.requeueNowDelay
  | requeueAfter delay => delay

/-- Failures of one server since its last success. -/
structure Streak where
  backoff : Backoff
  /-- How many there are, for the log only. No delay is below a second, so 32 bits hold them for more than a
  century of failures in a row. -/
  errors : Nat := 0
  deriving DecidableEq, Repr

structure Controller (σ : Type) where
  config : Config
  store : σ
  /-- The streaks of failing servers by namespace and name, written with a slash between. -/
  streaks : Table String Streak := ∅
  metrics : Metrics := {}

namespace Controller

variable {σ α : Type}

/-- Run a program on the store and count what it counts. -/
def perform (handler : Program.Handler σ) (c : Controller σ) (p : Program α) : α × Controller σ :=
  let r := p.run handler c.store
  (r.value, { c with store := r.state, metrics := c.metrics.incrementAll r.counted })

def tally (c : Controller σ) (counter : Counter) : Controller σ :=
  { c with metrics := c.metrics.increment counter }

/-- Forget the failures of a server. -/
def resetBackoff (c : Controller σ) (key : Key) : Controller σ :=
  { c with streaks := c.streaks.erase key.text }

/-- A pass for a server, which takes `seconds`, and the delay until the next one. -/
def reconcile (handler : Program.Handler σ) (c : Controller σ) (server : Server) (seconds : Float) :
    Except OperatorError Duration × Controller σ :=
  let (result, c) := (c.tally .reconciliations).perform handler (pass server.key).run
  let c := { c with metrics := c.metrics.observe seconds }
  match result with
  | .error e => (.error e, c)
  | .ok outcome =>
    (.ok (outcome.delay c.config), (c.resetBackoff server.key).tally (.requeues outcome.label))

/-- The streak of a server, new if it has none. -/
def streak (c : Controller σ) (key : Key) : Streak :=
  (c.streaks.get? key.text).getD { backoff := .start c.config.backoffMinSecs c.config.backoffMaxSecs }

/-- What follows a failed pass of a server: its streak grows, and the next pass comes after the next
delay. There is none if the moment of the next pass would be beyond all dates. -/
def retry (c : Controller σ) (key : Key) (now : Timestamp) : Option Duration × Controller σ :=
  let c := c.tally .reconciliationErrors
  let streak := c.streak key
  let (delay, backoff) := streak.backoff.next
  let c := { c with streaks := c.streaks.insert key.text { backoff, errors := streak.errors + 1 } }
  match now.later? delay with
  | none => (none, c)
  | some _ => (some (.ofSecs delay), c.tally (.requeues "error-backoff"))

end Controller

/-- A controller shows its configuration only. -/
def Controller.describe {σ : Type} (c : Controller σ) : String :=
  "Reconciler \x7b config: " ++ c.config.describe ++ ", .. \x7d"

end ServerOperator
