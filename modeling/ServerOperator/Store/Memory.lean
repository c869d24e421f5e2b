import ServerOperator.Store.Program

/-!
# A store in memory

Objects of the four kinds, with the rules of an API server that a pass depends on: every write takes a
new version, a replacement has to carry the version it was read at, a server's spec and status are
written separately, and a change of spec raises the generation. Calls can be made to fail.
-/

namespace ServerOperator

inductive Operation where
  | get
  | create
  | replace
  | patchStatus
  deriving DecidableEq, Repr

namespace Operation

def name : Operation → String
  | get => "get"
  | create => "create"
  | replace => "replace"
  | patchStatus => "patch_status"

def all : List Operation := [get, create, replace, patchStatus]

def ofName? (s : String) : Option Operation := all.find? (·.name == s)

end Operation

/-- An entry of the write log. -/
structure WriteRecord where
  operation : Operation
  kind : Kind
  name : String
  deriving DecidableEq, Repr

def WriteRecord.text (w : WriteRecord) : String :=
  w.operation.name ++ " " ++ w.kind.name ++ " " ++ w.name

structure MemoryStore where
  servers : Table Key Server := ∅
  deployments : Table Key Deployment := ∅
  services : Table Key Service := ∅
  ingresses : Table Key Ingress := ∅
  /-- The version taken last. Writes take them one by one from the start of the process on, and no process lives to
  make the 2 ^ 64 writes after which a counter of 64 bits would start again. -/
  version : Nat := 0
  /-- For each kind and operation that is to fail, the calls that still succeed before. -/
  failures : Table (String × Operation) Nat := ∅
  writes : List WriteRecord := []
  statusPatches : List ServerStatus := []
  deriving DecidableEq

instance : EmptyCollection MemoryStore := ⟨{}⟩
instance : Inhabited MemoryStore := ⟨∅⟩

namespace MemoryStore

/-! ## Objects -/

def table (s : MemoryStore) : (k : Kind) → Table Key k.Object
  | .server => s.servers
  | .deployment => s.deployments
  | .service => s.services
  | .ingress => s.ingresses

def withTable (s : MemoryStore) : (k : Kind) → Table Key k.Object → MemoryStore
  | .server, t => { s with servers := t }
  | .deployment, t => { s with deployments := t }
  | .service, t => { s with services := t }
  | .ingress, t => { s with ingresses := t }

def object? (s : MemoryStore) (k : Kind) (key : Key) : Option k.Object := (s.table k).get? key

def put (s : MemoryStore) (k : Kind) (key : Key) (o : k.Object) : MemoryStore :=
  s.withTable k ((s.table k).insert key o)

/-- Remove an object and return it. -/
def delete (s : MemoryStore) (k : Kind) (key : Key) : Option k.Object × MemoryStore :=
  (s.object? k key, s.withTable k ((s.table k).erase key))

/-! ## Versions -/

/-- Take the next version. -/
def nextVersion (s : MemoryStore) : MemoryStore := { s with version := s.version + 1 }

/-- The version taken last, as it stands in metadata. -/
def versionText (s : MemoryStore) : String := toString s.version

/-! ## Failures on demand -/

/-- Let `successes` more calls of an operation through, then fail all that follow. -/
def failAfter (s : MemoryStore) (kind : String) (op : Operation) (successes : Nat) : MemoryStore :=
  { s with failures := s.failures.insert (kind, op) successes }

def clearFailures (s : MemoryStore) : MemoryStore := { s with failures := ∅ }

/-- Ask whether a call may go on. A call that may uses up one success. -/
def permit (s : MemoryStore) (kind : Kind) (op : Operation) : Except StoreFailure MemoryStore :=
  match s.failures.get? (kind.name, op) with
  | none => .ok s
  | some 0 => .error ⟨"injected " ++ op.name ++ " failure for " ++ kind.name, []⟩
  | some (n + 1) => .ok { s with failures := s.failures.insert (kind.name, op) n }

/-! ## Calls -/

def record (s : MemoryStore) (op : Operation) (kind : Kind) (name : String) : MemoryStore :=
  { s with writes := s.writes ++ [⟨op, kind, name⟩] }

/-- An object as it is stored, at the version taken last. -/
def stamp (s : MemoryStore) (k : Kind) (o : k.Object) : k.Object :=
  k.withMetadata o { k.metadata o with resourceVersion := some s.versionText }

def get (s : MemoryStore) (k : Kind) (key : Key) :
    Except StoreFailure (Option k.Object) × MemoryStore :=
  match s.permit k .get with
  | .error f => (.error f, s)
  | .ok s => (.ok (s.object? k key), s)

/-- A new object takes the namespace it is created in. A version is taken even if its place is occupied. -/
def create (s : MemoryStore) (k : Kind) (space : String) (o : k.Object) :
    Except StoreFailure k.Object × MemoryStore :=
  match s.permit k .create with
  | .error f => (.error f, s)
  | .ok s =>
    match (k.metadata o).name with
    | none => (.error ⟨k.name ++ " has no name", []⟩, s)
    | some name =>
      let key : Key := ⟨space, name⟩
      let s := s.nextVersion
      let stored := s.stamp k (k.withMetadata o { k.metadata o with ns := some space })
      match s.object? k key with
      | some _ => (.error ⟨k.name ++ " " ++ key.text ++ " already exists", []⟩, s)
      | none => (.ok stored, (s.put k key stored).record .create k name)

/-- What a replacement may not touch: the status has an endpoint of its own, and the generation of a
server counts the changes of its spec. -/
def retain : (k : Kind) → (live incoming : k.Object) → k.Object
  | .server, live, incoming =>
    let live : Server := live
    let incoming : Server := incoming
    let generation := live.metadata.generation.getD 1
    { incoming with
      status := live.status
      metadata := { incoming.metadata with
        generation := some (if incoming.spec = live.spec then generation else generation + 1) } }
  | .deployment, live, incoming =>
    { (incoming : Deployment) with status := (live : Deployment).status }
  | .service, _, incoming => incoming
  | .ingress, _, incoming => incoming

def replace (s : MemoryStore) (k : Kind) (key : Key) (o : k.Object) :
    Except StoreFailure k.Object × MemoryStore :=
  match s.permit k .replace with
  | .error f => (.error f, s)
  | .ok s =>
    match s.object? k key with
    | none => (.error ⟨k.name ++ " " ++ key.text ++ " not found", []⟩, s)
    | some live =>
      if (k.metadata o).resourceVersion = (k.metadata live).resourceVersion then
        let s := s.nextVersion
        let stored := s.stamp k (retain k live o)
        (.ok stored, (s.put k key stored).record .replace k key.name)
      else (.error ⟨"conflict: " ++ k.name ++ " " ++ key.text ++ " was modified", []⟩, s)

def patchStatus (s : MemoryStore) (key : Key) (status : ServerStatus) :
    Except StoreFailure Unit × MemoryStore :=
  match s.permit .server .patchStatus with
  | .error f => (.error f, s)
  | .ok s =>
    match s.object? .server key with
    | none => (.error ⟨Kind.server.name ++ " " ++ key.text ++ " not found", []⟩, s)
    | some live =>
      let s := s.nextVersion
      let stored := s.stamp .server { (live : Server) with status := some status }
      let s := s.put .server key stored
      (.ok (), { s with statusPatches := s.statusPatches ++ [status] })

def handler : Program.Handler MemoryStore
  | s, .get k key => s.get k key
  | s, .create k space o => s.create k space o
  | s, .replace k key o => s.replace k key o
  | s, .patchStatus key status => s.patchStatus key status

/-! ## Users and the cluster -/

/-- Store a server as if a user had applied it. Generation and uid, where they are missing, are made up. -/
def insertServer (s : MemoryStore) (server : Server) : MemoryStore :=
  let m := server.metadata
  let name := m.name.getD ""
  let s := s.nextVersion
  s.put .server ⟨m.ns.getD "", name⟩
    (s.stamp .server { server with metadata := { m with
      generation := some (m.generation.getD 1)
      uid := some (m.uid.getD ("uid-" ++ name)) } })

/-- Report every replica that a stored Deployment asks for as ready. -/
def markReady (s : MemoryStore) (key : Key) : MemoryStore :=
  match s.object? .deployment key with
  | none => s
  | some (d : Deployment) =>
    let replicas := d.spec.bind (·.replicas)
    s.put .deployment key { d with status := some { replicas, readyReplicas := replicas } }

end MemoryStore

end ServerOperator
