import ServerOperator.Kind
import ServerOperator.Metrics

/-!
# Programs over an object store

What the operator does to a cluster, as a value: single calls, each followed by what is done with its
answer, and counters to increment on the way. A handler that answers calls runs a program; so the same
pass runs on a store in memory, on an API server, and between the calls of other clients.
-/

namespace ServerOperator

/-- A call that did not succeed, with the texts of the failures below it. -/
structure StoreFailure where
  message : String
  causes : List String := []
  deriving DecidableEq, Repr

inductive Call where
  | get (kind : Kind) (key : Key)
  | create (kind : Kind) (space : String) (object : kind.Object)
  | replace (kind : Kind) (key : Key) (object : kind.Object)
  | patchStatus (key : Key) (status : ServerStatus)

/-- What a successful call returns. -/
@[reducible] def Call.Answer : Call → Type
  | .get kind _ => Option kind.Object
  | .create kind .. => kind.Object
  | .replace kind .. => kind.Object
  | .patchStatus .. => Unit

inductive Program (α : Type) where
  | done (value : α)
  | call (c : Call) (next : Except StoreFailure c.Answer → Program α)
  | count (c : Counter) (next : Program α)

namespace Program

variable {α β γ : Type}

def bind : Program α → (α → Program β) → Program β
  | done a, f => f a
  | call c next, f => call c fun r => (next r).bind f
  | count c next, f => count c (next.bind f)

instance : Monad Program where
  pure := done
  bind := bind

/-- One call and its answer. -/
def perform (c : Call) : Program (Except StoreFailure c.Answer) := call c done

/-- One increment. -/
def tally (c : Counter) : Program Unit := count c (done ())

/-! ## Running -/

/-- Something that answers calls and has a state. -/
abbrev Handler (σ : Type) := σ → (c : Call) → Except StoreFailure c.Answer × σ

/-- The value a run ended with, the state it left, and the counters it incremented, in order. -/
structure Run (σ α : Type) where
  value : α
  state : σ
  counted : List Counter

def run {σ : Type} (handler : Handler σ) : Program α → σ → Run σ α
  | done a, s => ⟨a, s, []⟩
  | call c next, s =>
    let (answer, s) := handler s c
    (next answer).run handler s
  | count c next, s =>
    let r := next.run handler s
    { r with counted := c :: r.counted }

/-! ## Laws -/

theorem bind_done (p : Program α) : p.bind done = p := by
  induction p with
  | done a => rfl
  | call c next ih => exact congrArg (call c) (funext ih)
  | count c next ih => exact congrArg (count c) ih

theorem bind_assoc (p : Program α) (f : α → Program β) (g : β → Program γ) :
    (p.bind f).bind g = p.bind fun a => (f a).bind g := by
  induction p with
  | done a => rfl
  | call c next ih => exact congrArg (call c) (funext ih)
  | count c next ih => exact congrArg (count c) ih

instance : LawfulMonad Program := LawfulMonad.mk' Program bind_done (fun _ _ => rfl) bind_assoc

/-- Running two programs one after the other. -/
theorem run_bind {σ : Type} (handler : Handler σ) (p : Program α) (f : α → Program β) (s : σ) :
    (p.bind f).run handler s =
      let r := p.run handler s
      let r' := (f r.value).run handler r.state
      ⟨r'.value, r'.state, r.counted ++ r'.counted⟩ := by
  induction p generalizing s with
  | done a => rfl
  | call c next ih => exact ih _ _
  | count c next ih => simp [bind, run, ih]

end Program

/-- A program that may give up with an error. -/
abbrev Attempt := ExceptT OperatorError Program

namespace Attempt

/-- A call whose failure ends the attempt. -/
def call (c : Call) (error : StoreFailure → OperatorError) : Attempt c.Answer :=
  ExceptT.mk (Program.call c fun
    | .ok a => .done (.ok a)
    | .error f => .done (.error (error f)))

def tally (c : Counter) : Attempt Unit :=
  ExceptT.mk (Program.count c (.done (.ok ())))

def ofExcept {α : Type} (r : Except OperatorError α) : Attempt α :=
  ExceptT.mk (.done r)

end Attempt

end ServerOperator
