import ServerOperator.Server

/-!
# Metadata of children

The objects made for a server have its name and namespace, labels that identify them, and the server as
their controller. Merging takes these over and leaves what others put there.
-/

namespace ServerOperator

/-! ## Labels and ownership -/

/-- The label that selects the pods of a server, and holds its name. -/
def appLabel : String := "app"

def managedByLabel : String := "app.kubernetes.io/managed-by"
def managedByValue : String := "mcp-runtime"

/-- The labels of every child and of its pods. -/
def childLabels (name : String) : SortedMap String :=
  (∅ : SortedMap String).insert appLabel name |>.insert managedByLabel managedByValue

/-- A reference to the server as controller, once the cluster has given it a name and an identity. -/
def Server.ownerReference? (s : Server) : Option OwnerReference := do
  return {
    apiVersion := Server.tag.apiVersion
    kind := Server.tag.kind
    name := ← s.metadata.name
    uid := ← s.metadata.uid
    controller := some true }

def Server.childMetadata (s : Server) : Metadata where
  name := some s.name
  ns := s.metadata.ns
  labels := some (childLabels s.name)
  ownerReferences := s.ownerReference?.map ([·])

/-! ## Merging -/

/-- Put the wanted entries over the live ones. Nothing wanted leaves the live map as it is. -/
def mergeEntries (live wanted : Option (SortedMap String)) : Option (SortedMap String) :=
  match wanted with
  | none => live
  | some w => if w.isEmpty then live else some ((live.getD ∅).union w)

/-- Append an owner unless one with its identity is there. -/
def addOwner (owners : List OwnerReference) (owner : OwnerReference) : List OwnerReference :=
  if owners.any (·.uid == owner.uid) then owners else owners ++ [owner]

def mergeOwners (live wanted : Option (List OwnerReference)) : Option (List OwnerReference) :=
  match wanted with
  | none | some [] => live
  | some owners => some (owners.foldl addOwner (live.getD []))

/-- The live metadata with the labels, annotations and owners that are wanted. -/
def Metadata.merge (live wanted : Metadata) : Metadata :=
  { live with
    labels := mergeEntries live.labels wanted.labels
    annotations := mergeEntries live.annotations wanted.annotations
    ownerReferences := mergeOwners live.ownerReferences wanted.ownerReferences }

end ServerOperator
