import ServerOperator.Store.Program

/-!
# Runs of a program

What a run does besides its value: the calls it makes, each with its answer, and what holds where it
ends. The end is followed step by step (`ends_bind`, `ends_call`). Which calls a program may make at all
is read off the program itself (`Issues`), whatever answers it gets.
-/

namespace ServerOperator

structure CallRecord where
  call : Call
  answer : Except StoreFailure call.Answer

namespace Call

def isRead : Call → Bool
  | get .. => true
  | _ => false

def keepsObjects : Call → Bool
  | get .. | patchStatus .. => true
  | _ => false

def place? : Call → Option (Kind × Key)
  | get .. => none
  | create k space o => (k.metadata o).name.map fun name => (k, ⟨space, name⟩)
  | replace k key _ => some (k, key)
  | patchStatus key _ => some (.server, key)

end Call

namespace Program

variable {α β σ : Type}

def calls (handler : Handler σ) : Program α → σ → List CallRecord
  | done _, _ => []
  | call c next, s => ⟨c, (handler s c).1⟩ :: (next (handler s c).1).calls handler (handler s c).2
  | count _ next, s => next.calls handler s

/-! ## Where a run ends -/

def Ends (handler : Handler σ) (p : Program α) (s : σ) (Q : α → σ → Prop) : Prop :=
  Q (p.run handler s).value (p.run handler s).state

variable {handler : Handler σ} {s : σ}

theorem Ends.imp {p : Program α} {Q R : α → σ → Prop} (h : p.Ends handler s Q)
    (hQR : ∀ a t, Q a t → R a t) : p.Ends handler s R :=
  hQR _ _ h

@[simp] theorem ends_done {a : α} {Q : α → σ → Prop} : (done a).Ends handler s Q ↔ Q a s :=
  Iff.rfl

@[simp] theorem ends_count {c : Counter} {p : Program α} {Q : α → σ → Prop} :
    (count c p).Ends handler s Q ↔ p.Ends handler s Q :=
  Iff.rfl

theorem ends_call {c : Call} {next : Except StoreFailure c.Answer → Program α} {Q : α → σ → Prop} :
    (call c next).Ends handler s Q ↔ (next (handler s c).1).Ends handler (handler s c).2 Q :=
  Iff.rfl

theorem ends_bind {p : Program α} {f : α → Program β} {Q : β → σ → Prop} :
    (p >>= f).Ends handler s Q ↔ p.Ends handler s fun a t => (f a).Ends handler t Q := by
  show Q ((p.bind f).run handler s).value ((p.bind f).run handler s).state ↔ _
  rw [run_bind]
  exact Iff.rfl

/-! ## Which calls a program may make -/

def Issues (P : Call → Prop) : Program α → Prop
  | done _ => True
  | call c next => P c ∧ ∀ r, (next r).Issues P
  | count _ next => next.Issues P

theorem issues_bind {P : Call → Prop} {p : Program α} {f : α → Program β} (hp : p.Issues P)
    (hf : ∀ a, (f a).Issues P) : (p >>= f).Issues P := by
  show (p.bind f).Issues P
  induction p with
  | done a => exact hf a
  | call c next ih => exact ⟨hp.1, fun r => ih r (hp.2 r)⟩
  | count c next ih => exact ih hp

theorem Issues.calls {P : Call → Prop} {p : Program α} (h : p.Issues P) (s : σ) :
    ∀ x ∈ p.calls handler s, P x.call := by
  induction p generalizing s with
  | done a => intro x hx; cases hx
  | call c next ih =>
    intro x hx
    rcases List.mem_cons.mp hx with rfl | hx
    · exact h.1
    · exact ih _ (h.2 _) _ x hx
  | count c next ih => exact ih h s

end Program

/-! ## Attempts -/

theorem Except.mapError_ok {ε ε' α : Type} (f : ε → ε') (a : α) : (Except.ok a).mapError f = .ok a := rfl

namespace Attempt

variable {α β σ : Type} {handler : Program.Handler σ} {s : σ}

theorem ends_bind {x : Attempt α} {f : α → Attempt β} {Q : Except OperatorError β → σ → Prop} :
    (x >>= f).run.Ends handler s Q ↔ x.run.Ends handler s fun
      | .ok a, t => (f a).run.Ends handler t Q
      | .error e, t => Q (.error e) t := by
  rw [ExceptT.run_bind, Program.ends_bind]
  constructor <;> intro h <;> refine h.imp fun r t hr => ?_
  all_goals cases r <;> exact hr

theorem ends_call {c : Call} {error : StoreFailure → OperatorError}
    {Q : Except OperatorError c.Answer → σ → Prop} :
    (call c error).run.Ends handler s Q ↔ Q ((handler s c).1.mapError error) (handler s c).2 := by
  simp only [call, ExceptT.run_mk, Program.ends_call]
  cases (handler s c).1 <;> exact Iff.rfl

theorem ends_ofExcept {r : Except OperatorError α} {Q : Except OperatorError α → σ → Prop} :
    (ofExcept r).run.Ends handler s Q ↔ Q r s :=
  Iff.rfl

theorem ends_lift {p : Program α} {Q : Except OperatorError α → σ → Prop} :
    (monadLift p : Attempt α).run.Ends handler s Q ↔ p.Ends handler s fun a t => Q (.ok a) t :=
  Program.ends_bind (f := fun a => Program.done (Except.ok a : Except OperatorError α))

/-- An attempt that starts with a call makes it, and after a success the calls of what follows. -/
theorem calls_call {c : Call} {error : StoreFailure → OperatorError} {f : c.Answer → Attempt α} {a : c.Answer} {t : σ}
    (h : handler s c = (.ok a, t)) :
    (call c error >>= f).run.calls handler s = ⟨c, .ok a⟩ :: (f a).run.calls handler t := by
  show (⟨c, (handler s c).1⟩ : CallRecord) :: _ = _
  rw [h]
  rfl

theorem issues_bind {P : Call → Prop} {x : Attempt α} {f : α → Attempt β} (hx : x.run.Issues P)
    (hf : ∀ a, (f a).run.Issues P) : (x >>= f).run.Issues P :=
  Program.issues_bind hx fun
    | .ok a => hf a
    | .error _ => trivial

theorem issues_call {P : Call → Prop} {c : Call} {error : StoreFailure → OperatorError} (h : P c) :
    (call c error).run.Issues P :=
  ⟨h, fun
    | .ok _ => trivial
    | .error _ => trivial⟩

end Attempt

end ServerOperator
