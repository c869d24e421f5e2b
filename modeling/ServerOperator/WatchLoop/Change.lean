import ServerOperator.Api.Cluster

/-!
# Changes

What others do to the objects of a cluster, and the words in which a watch tells of it.
-/

namespace ServerOperator

inductive ChangeType where
  | added
  | modified
  | deleted
  /-- The watch itself has failed, and the object says why. -/
  | error
  deriving DecidableEq, Repr

namespace ChangeType

def name : ChangeType → String
  | added => "ADDED"
  | modified => "MODIFIED"
  | deleted => "DELETED"
  | error => "ERROR"

def all : List ChangeType := [added, modified, deleted, error]

def ofName? (s : String) : Option ChangeType := all.find? (·.name == s)

end ChangeType

/-- A change made by others. -/
structure Change where
  /-- In milliseconds. -/
  time : Nat
  type : ChangeType
  kind : Kind
  object : Json

namespace Change

/-- Where the object is kept. -/
def key (c : Change) : Key := Cluster.keyOf c.object

/-- What a watch says of the change. -/
def line (c : Change) : ApiBody :=
  .value (.object [("object", c.object), ("type", .string c.type.name)])

/-- Whether a watch of a scope tells of the change. -/
def concerns (c : Change) (scope : Option String) : Bool :=
  c.type = .error || Cluster.inScope scope c.key.space

end Change

/-- Make a change to the objects. -/
def Cluster.change (cluster : Cluster) (c : Change) : Cluster :=
  match c.type with
  | .added | .modified => cluster.store c.kind c.key c.object
  | .deleted => cluster.remove c.kind c.key
  | .error => cluster

end ServerOperator
