import ServerOperator.Json.Foreign

/-!
# Object metadata

What every object of a cluster carries: its name and namespace, labels and annotations, the objects
that own it, and the marks the cluster puts on it. An unset field differs from an empty one.
-/

namespace ServerOperator

open Json

structure OwnerReference where
  apiVersion : String := ""
  kind : String := ""
  name : String := ""
  uid : String := ""
  controller : Option Bool := none
  blockOwnerDeletion : Option Bool := none
  deriving DecidableEq, Inhabited

abbrev Metadata.foreignNames : List String :=
  ["creationTimestamp", "deletionTimestamp", "managedFields", "selfLink"]

structure Metadata where
  name : Option String := none
  generateName : Option String := none
  ns : Option String := none
  labels : Option (SortedMap String) := none
  annotations : Option (SortedMap String) := none
  ownerReferences : Option (List OwnerReference) := none
  resourceVersion : Option String := none
  uid : Option String := none
  generation : Option Int64 := none
  finalizers : Option (List String) := none
  deletionGracePeriodSeconds : Option Int64 := none
  foreign : Foreign Metadata.foreignNames := ∅
  deriving DecidableEq, Inhabited

namespace Metadata

/-- The name, or the stem that a name is to be generated from, or nothing. -/
def anyName (m : Metadata) : String :=
  (m.name <|> m.generateName).getD ""

/-- The namespace as part of a key: empty when unset. -/
def space (m : Metadata) : String :=
  m.ns.getD ""

end Metadata

/-- The version and kind under which objects of one type are known to the API. -/
structure TypeTag where
  apiVersion : String
  kind : String
  deriving DecidableEq

end ServerOperator
