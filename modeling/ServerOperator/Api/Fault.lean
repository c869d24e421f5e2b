import ServerOperator.Api.Response

/-!
# Faults

Requests that an API server answers out of order, always or a number of times.
-/

namespace ServerOperator

/-- What is done with objects of a kind: one is asked for, all are listed, or their changes are watched. -/
inductive Access where
  | object (method : Method)
  | list
  | watch
  deriving DecidableEq, Repr

namespace Access

def name : Access → String
  | object m => m.name
  | list => "LIST"
  | watch => "WATCH"

def all : List Access := Method.all.map object ++ [list, watch]

def ofName? (s : String) : Option Access := all.find? (·.name == s)

end Access

structure Fault where
  access : Access
  kind : Kind
  response : ApiResponse
  /-- How often the fault is still to occur; without end if unset. -/
  times : Option Nat := none

namespace Fault

/-- A refusal with a status object. -/
def refusal (status : Nat) (reason message : String) : ApiResponse where
  status
  body := .value (ApiStatus.toJson { status := "Failure", message, reason, code := UInt16.ofNat status })

def applies (f : Fault) (access : Access) (kind : Kind) : Bool :=
  f.access == access && f.kind == kind && f.times != some 0

/-- The fault once it has occurred. -/
def occurred (f : Fault) : Fault := { f with times := f.times.map (· - 1) }

/-- The response of the first fault that applies, and the faults after it occurred. -/
def take? (access : Access) (kind : Kind) : List Fault → Option (ApiResponse × List Fault)
  | [] => none
  | f :: rest =>
    if f.applies access kind then some (f.response, f.occurred :: rest)
    else (take? access kind rest).map fun (response, rest) => (response, f :: rest)

end Fault

end ServerOperator
