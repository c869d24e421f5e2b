import ServerOperator.WatchLoop.State

/-!
# Listening

How the streams go on, one step of one stream at a time. A stream that has told of a server, or has
failed, goes to the end of the row, so that the others get their turn. A failure stops all streams for a
while; what an open watch brings meanwhile is kept.
-/

namespace ServerOperator.WatchLoop

/-- What a step of a stream comes to. -/
inductive Progress where
  /-- The stream goes on at once. -/
  | further
  /-- A pass was asked for. -/
  | told
  | failed
  /-- The stream waits for an answer. -/
  | asked
  /-- The stream waits for a change. -/
  | waiting
  deriving DecidableEq, Repr

/-! ## Steps of a stream -/

/-- Report a failure, after which the stream is at `stage`. -/
def fail (l : WatchLoop) (kind : Kind) (failure : StreamFailure) (stage : StreamStage) :
    Progress × WatchLoop :=
  (.failed, (l.withStage kind stage).report ("QueueError(" ++ failure.describe ++ ")"))

/-- List a page. -/
def askPage (l : WatchLoop) (kind : Kind) (continuation : String) : Progress × WatchLoop :=
  match Target.sent? (WatchStream.listTarget kind l.scope continuation) with
  | none => l.fail kind (.listing .unsendable) (.unlisted "")
  | some target =>
    let (page, cluster) := l.cluster.list kind l.scope
    (.asked, ({ l with targets := l.targets ++ [target] }.withCluster cluster).withStage kind (.answered page))

/-- Open a watch. -/
def askWatch (l : WatchLoop) (kind : Kind) (version : String) : Progress × WatchLoop :=
  let target := WatchStream.watchTarget kind l.scope version
  let ((lines, isOpen), cluster) := l.cluster.watch kind
  (.asked, ({ l with targets := l.targets ++ [target] }.withCluster cluster).withStage kind
    (.watching version lines isOpen))

/-- Look at a page. -/
def takePage (l : WatchLoop) (kind : Kind) (page : ApiResponse) : Progress × WatchLoop :=
  match page.readListing (Sighting.ofJson? kind) with
  | .error cause => l.fail kind (.listing cause) (.unlisted "")
  | .ok listing =>
    if listing.version = "" && listing.continuation = "" then l.fail kind .unversioned (.unlisted "")
    else (.further, l.withStage kind (.telling listing.items listing.version listing.continuation))

/-- Ask for passes for some servers, one in each step. -/
def owe (l : WatchLoop) (kind : Kind) (keys : List Key) : WatchLoop :=
  l.withStream kind { l.stream kind with owed := keys }

/-- Tell of an object that was listed. -/
def tell (l : WatchLoop) (kind : Kind) (seen : Sighting) : WatchLoop :=
  let l := l.owe kind seen.concerned
  match seen with
  | .server s => { l with gathered := l.gathered.insert (Sighting.keyOf s) s }
  | .child _ => l

/-- After the last page the servers that were listed are those that are there. -/
def finishListing (l : WatchLoop) (kind : Kind) : WatchLoop :=
  if kind = .server then { l with watched := l.gathered, gathered := ∅, listed := true } else l

/-- Take note of a server. -/
def observe (l : WatchLoop) : Sighting → WatchLoop
  | .server s => { l with watched := l.watched.insert (Sighting.keyOf s) s }
  | .child _ => l

/-- Forget a server; what is due stays due. -/
def forget (l : WatchLoop) : Sighting → WatchLoop
  | .server s => { l with watched := l.watched.erase (Sighting.keyOf s) }
  | .child _ => l

/-- Look at a notice. What goes by no version cannot be followed any further, nor can a watch that has fallen
behind too far. -/
def takeNotice (l : WatchLoop) (kind : Kind) (rest : String → StreamStage) (version : String) :
    Notice → Progress × WatchLoop
  | .present seen =>
    if seen.version = "" then l.fail kind .unversioned (.unlisted "")
    else (.further, ((l.observe seen).withStage kind (rest seen.version)).owe kind seen.concerned)
  | .gone seen =>
    if seen.version = "" then l.fail kind .unversioned (.unlisted "")
    else
      let l := (l.forget seen).withStage kind (rest seen.version)
      (.further, if kind = .server then l else l.owe kind seen.concerned)
  | .bookmark version => (.further, l.withStage kind (rest version))
  | .failed status =>
    l.fail kind (.announced status) (if status.code = 410 then .unlisted "" else rest version)

/-- Look at a line of a watch. -/
def takeLine (l : WatchLoop) (kind : Kind) (version : String) (line : ApiBody) (lines : List ApiBody)
    (isOpen : Bool) : Progress × WatchLoop :=
  let rest (version : String) : StreamStage := .watching version lines isOpen
  match Notice.ofLine? kind line with
  | .ok none => (.further, l.withStage kind (rest version))
  | .ok (some notice) => l.takeNotice kind rest version notice
  | .error cause => l.fail kind (.watching cause) (rest version)

def streamStep (l : WatchLoop) (kind : Kind) : Progress × WatchLoop :=
  match (l.stream kind).owed, (l.stream kind).stage with
  | key :: keys, _ => (.told, (l.owe kind keys).schedule l.now key)
  | [], .unlisted continuation => l.askPage kind continuation
  | [], .answered page => l.takePage kind page
  | [], .telling (seen :: rest) version continuation =>
    (.further, (l.withStage kind (.telling rest version continuation)).tell kind seen)
  | [], .telling [] version continuation =>
    if continuation = "" then (l.finishListing kind).askWatch kind version else l.askPage kind continuation
  | [], .watching version (line :: lines) isOpen => l.takeLine kind version line lines isOpen
  | [], .watching version [] isOpen => if isOpen then (.waiting, l) else l.askWatch kind version

/-! ## All streams -/

/-- Let the streams go on until all of them wait, or one has failed. -/
def listen : (steps : Nat) → WatchLoop → WatchLoop
  | 0, l => l
  | n + 1, l =>
    match l.ready with
    | [] => if l.asked.isEmpty then l else listen n { l with ready := l.asked, asked := [] }
    | kind :: rest =>
      match { l with ready := rest }.streamStep kind with
      | (.further, l) => listen n { l with ready := kind :: l.ready }
      | (.told, l) => listen n { l with ready := l.ready ++ [kind], pauses := l.pauses.reset }
      | (.failed, l) =>
        { l with ready := l.ready ++ kind :: l.asked, asked := [], pauses := l.pauses.begin l.now }
      | (.asked, l) => listen n { l with asked := l.asked ++ [kind] }
      | (.waiting, l) => listen n l

/-- Hear of a change, if a watch is open that tells of it. -/
def hear (l : WatchLoop) (c : Change) : WatchLoop :=
  let s := l.stream c.kind
  if s.isOpen && c.concerns l.scope then
    let l := l.withStream c.kind (s.hear c.line)
    if (l.ready ++ l.asked).contains c.kind then l else { l with ready := l.ready ++ [c.kind] }
  else l

end ServerOperator.WatchLoop
