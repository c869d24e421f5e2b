import ServerOperator.WatchLoop.Listening

/-!
# The watch loop

The controller over time. Servers that are listed or changed get a pass at once, as do the owners of
changed children; every pass says when the next one is due, and of two moments for one server the
earlier counts. A server that is not watched any more gets no pass when it is due. Time moves from one
thing to do to the next, and doing it takes none.
-/

namespace ServerOperator.WatchLoop

/-! ## Passes -/

def wallClock (l : WatchLoop) : Timestamp := { l.began with secs := l.began.secs + l.now / 1000 }

/-- A pass for a watched server, and what follows from it. -/
def reconcile (l : WatchLoop) (key : Key) (s : Server) : WatchLoop :=
  match l.controller.reconcile Cluster.handler s 0 with
  | (.ok delay, controller) => { l with controller }.schedule (l.now + delay.toMillis) key
  | (.error _, controller) =>
    match controller.retry s.key l.wallClock with
    | (some delay, controller) => { l with controller }.schedule (l.now + delay.toMillis) key
    | (none, controller) => { l with controller }

def passStep (l : WatchLoop) (key : Key) : WatchLoop :=
  let l := { l with due := l.due.erase key }
  match l.watched.get? key with
  | some s => l.reconcile key s
  | none => l.report ("ObjectNotFound(" ++ Server.tag.kind ++ " " ++ key.text ++ ")")

/-! ## Running -/

inductive Task where
  | change (c : Change)
  | pass (key : Key)
  | listen

/-- Everything there is to do, with its time. At one time changes come first, then the passes that are due,
and then the streams, all of which are heard before the passes that they ask for. -/
def tasks (l : WatchLoop) : List (Nat × Task) :=
  (l.changes.take 1).map (fun c => (c.time, .change c)) ++
    (if l.listed then l.due.entries.map fun (key, time) => (time, .pass key) else []) ++
    (if l.ready.isEmpty then [] else [(max l.now l.pauses.finish, .listen)])

/-- The first thing to do among those of the least time. -/
def next? (l : WatchLoop) : Option (Nat × Task) :=
  l.tasks.foldl (fun best t =>
    match best with
    | some b => if t.1 < b.1 then some t else some b
    | none => some t) none

/-- Go on to a later moment. -/
def advance (l : WatchLoop) (time : Nat) : WatchLoop :=
  let now := max l.now time
  { l with now }.withCluster { l.cluster with clock := now }

def changeStep (l : WatchLoop) (c : Change) : WatchLoop :=
  ({ l with changes := l.changes.drop 1 }.withCluster (l.cluster.change c)).hear c

/-- How many lines and objects there can be to hear of: those in the cluster, those of all changes, and for
each time that a fault occurs as many as its text has characters. -/
def volume (l : WatchLoop) : Nat :=
  let lines := l.changes.foldl (fun n c => n + c.line.toText.length) 0
  let faults := l.cluster.faults.foldl
    (fun n f => n + (f.times.getD 1 + 1) * (f.response.body.toText.length + 1)) 0
  l.cluster.objects.entries.length + lines + faults + 8

def perform (l : WatchLoop) (volume : Nat) : Task → WatchLoop
  | .change c => l.changeStep c
  | .pass key => l.passStep key
  | .listen => l.listen (16 * volume)

/-- Do what is to be done before `stop`, in at most `steps` steps. -/
def runSteps (stop volume : Nat) : (steps : Nat) → WatchLoop → WatchLoop
  | 0, l => l
  | n + 1, l =>
    match l.next? with
    | some (time, task) =>
      if max l.now time < stop then runSteps stop volume n ((l.advance time).perform volume task) else l
    | none => l

def startLine : Log.Event := Log.line .info "Starting controller watch loop..."

/-- What is logged from the signal to the end. -/
def stopLines : List Log.Event := [
  Log.line .info "Received shutdown signal (SIGINT/SIGTERM), initiating graceful shutdown...",
  Log.line .info "Marked server as not ready, waiting for in-flight reconciliations to complete...",
  Log.line .info "Controller stopped gracefully"]

/-- The loop from its start to a signal at `stop`, which makes the operator say that it is not ready. There
are more steps than can be due when every server waits a millisecond between two passes that nobody else
asked for. -/
def run (l : WatchLoop) (stop : Nat) : WatchLoop :=
  let l := runSteps stop l.volume (l.volume * (stop + 2)) { l with log := l.log ++ [startLine] }
  { l with isReady := false, log := l.log ++ stopLines }

end ServerOperator.WatchLoop
