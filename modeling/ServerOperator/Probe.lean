import ServerOperator.Metrics.Exposition

/-!
# Probes

The small server beside the controller: metrics for a scraper, and two probes that say whether the
operator is alive and whether it takes work.
-/

namespace ServerOperator.Probe

inductive Route where
  | metrics
  | alive
  | ready
  deriving DecidableEq, Repr

structure Response where
  status : Nat
  contentType : Option String := none
  /-- The methods that would have been taken. -/
  allow : Option String := none
  body : String := ""
  deriving DecidableEq, Repr

/-- The path of a request target: without an origin before it and a query behind it. -/
def path (target : String) : String :=
  let cs := target.toList.takeWhile fun c => c ≠ '?' && c ≠ '#'
  match cs with
  | '/' :: _ => String.ofList cs
  | _ => String.ofList (afterOrigin cs)
where
  /-- What follows the scheme and the host. -/
  afterOrigin : List Char → List Char
    | ':' :: '/' :: '/' :: cs =>
      match cs.dropWhile (· ≠ '/') with
      | [] => ['/']
      | rest => rest
    | _ :: cs => afterOrigin cs
    | [] => []

def route? (target : String) : Option Route :=
  match path target with
  | "/metrics" => some .metrics
  | "/healthz" => some .alive
  | "/readyz" => some .ready
  | _ => none

def scrape (m : Metrics) : Response where
  status := 200
  contentType := some "text/plain; version=0.0.4; charset=utf-8"
  body := m.text

/-- The answer to one request. `HEAD` is a `GET` whose answer has no body. -/
def respond (ready : Bool) (m : Metrics) (method target : String) : Response :=
  match route? target with
  | none => { status := 404 }
  | some route =>
    if method ≠ "GET" ∧ method ≠ "HEAD" then { status := 405, allow := some "GET,HEAD" }
    else
      let response :=
        match route with
        | .metrics => scrape m
        | .alive => { status := 200 }
        | .ready => { status := if ready then 200 else 503 }
      if method = "HEAD" then { response with body := "" } else response

end ServerOperator.Probe
