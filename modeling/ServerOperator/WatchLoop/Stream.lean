import ServerOperator.Child.Metadata
import ServerOperator.WatchLoop.Notice

/-!
# Watch streams

How the controller follows the objects of one kind: it lists them, page by page, and then watches for
changes. A watch that ends is opened again where it ended. When a listing fails, or it is not known from
where to watch, everything is listed anew.
-/

namespace ServerOperator

/-- Where a stream is. -/
inductive StreamStage where
  /-- The first page, or the one of a continuation, is to be listed. -/
  | unlisted (continuation : String)
  /-- A page has come that is not looked at yet. -/
  | answered (page : ApiResponse)
  /-- Objects of a page that are still to be told of. -/
  | telling (seen : List Sighting) (version continuation : String)
  /-- Lines of a watch that are not looked at yet, and whether more may follow. -/
  | watching (version : String) (lines : List ApiBody) (isOpen : Bool)

structure WatchStream where
  stage : StreamStage := .unlisted ""
  /-- Servers that are still to be asked a pass for. -/
  owed : List Key := []

namespace WatchStream

/-- Take another line, if the watch is open. -/
def hear (s : WatchStream) (line : ApiBody) : WatchStream :=
  match s.stage with
  | .watching version lines true => { s with stage := .watching version (lines ++ [line]) true }
  | _ => s

def isOpen (s : WatchStream) : Bool :=
  match s.stage with
  | .watching _ _ isOpen => isOpen
  | _ => false

/-! ## Targets -/

/-- Children are followed only if they carry the label of the operator. -/
def selector (kind : Kind) : List (String × String) :=
  if kind = .server then []
  else [("labelSelector", Target.encode (managedByLabel ++ "=" ++ managedByValue))]

/-- Where a page is listed. -/
def listTarget (kind : Kind) (scope : Option String) (continuation : String) : String :=
  Target.withQuery (Target.collection kind scope)
    (selector kind ++ [("limit", "500")] ++
      if continuation = "" then [] else [("continue", Target.encode continuation)])

def watchTarget (kind : Kind) (scope : Option String) (version : String) : String :=
  Target.withQuery (Target.collection kind scope)
    ([("watch", "true"), ("timeoutSeconds", "290")] ++ selector kind ++
      [("allowWatchBookmarks", "true"), ("resourceVersion", Target.encode version)])

end WatchStream

/-- Why a step of a stream failed. -/
inductive StreamFailure where
  | listing (cause : ApiFailure)
  /-- A line of a watch cannot be read. -/
  | watching (cause : ApiFailure)
  /-- The watch said that it has failed. -/
  | announced (status : ApiStatus)
  /-- A listing or an object without a version. -/
  | unversioned

def StreamFailure.describe : StreamFailure → String
  | listing cause => "the listing failed: " ++ cause.describe
  | watching cause => "the watch failed: " ++ cause.describe
  | announced status => "the watch broke off: " ++ status.describe
  | unversioned => "there is no resource version"

/-! ## Pauses -/

/-- The pauses that all streams make together when one of them fails. Each is twice as long as the one
before, until a server is asked a pass for, or there was no failure for a long time. -/
structure Pauses where
  /-- The end of the last pause, in milliseconds. -/
  finish : Nat := 0
  /-- The start of the last pause. -/
  began : Option Nat := none
  /-- How many pauses there were in a row. -/
  row : Nat := 0
  deriving DecidableEq, Repr

namespace Pauses

/-- The length of a pause after others in a row: from 0.8 to 30 seconds. Doubling leaves a remainder below a
millisecond, and no pause ends early. -/
def length : (row : Nat) → Nat
  | 0 => 800
  | row + 1 => min (800 * Nat.pow 2 (min row 5 + 1) + 1) 30000

/-- How long a row of pauses is remembered. -/
def memory : Nat := 120000

def begin (p : Pauses) (now : Nat) : Pauses :=
  let row := if p.began.any fun began => began + memory < now then 0 else p.row
  { finish := now + length row, began := some now, row := row + 1 }

def reset (p : Pauses) : Pauses := { p with row := 0 }

end Pauses

end ServerOperator
