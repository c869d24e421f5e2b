import ServerOperator.Store.Program

/-!
# Applying children

A child that is missing is created, one that differs in an owned field is replaced, and one that is up
to date is left alone.
-/

namespace ServerOperator

/-- An error whose causes are those of a failed call. -/
def StoreFailure.toError (f : StoreFailure) (kind : ErrorKind) (message : String)
    (context : SortedMap String) : OperatorError :=
  { kind, message, context, causes := f.message :: f.causes }

/-- The context of errors in the pass of a server. -/
def Server.errorContext (s : Server) : SortedMap String :=
  OperatorError.serverContext s.name s.space

namespace Child

/-- A call for a child failed; `operation` is the word for what was tried. -/
def callFailed (c : Child) (server : Server) (operation : String) (f : StoreFailure) : OperatorError :=
  (f.toError c.errorKind ("Failed to " ++ operation ++ " " ++ c.resource) server.errorContext
    |>.withContext "resource" c.resource).withContext "operation" operation

def create (c : Child) (server : Server) (wanted : c.kind.Object) : Attempt Unit := do
  let _ ← Attempt.call (.create c.kind server.space wanted) (c.callFailed server "create")
  Attempt.tally (.resourceOperations c.resource "create")

def update (c : Child) (server : Server) (merged : c.kind.Object) : Attempt Unit := do
  let _ ← Attempt.call (.replace c.kind server.key merged) (c.callFailed server "update")
  Attempt.tally (.resourceOperations c.resource "update")

/-- Bring one child to what the server asks for. -/
def apply (c : Child) (server : Server) : Attempt Unit := do
  let wanted ← Attempt.ofExcept (c.wanted server)
  match ← Attempt.call (.get c.kind server.key) (c.callFailed server "get") with
  | none => c.create server wanted
  | some live =>
    let merged := c.merge live wanted
    if merged = live then pure () else c.update server merged

end Child

/-- All children in order, up to the first that fails. -/
def Server.applyChildren (s : Server) : Attempt Unit :=
  Child.all.forM (·.apply s)

end ServerOperator
