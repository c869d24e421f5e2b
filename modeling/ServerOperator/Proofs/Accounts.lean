import ServerOperator.Controller
import ServerOperator.Proofs.Effects
import ServerOperator.Proofs.Endings

/-!
# What the counters count

Counters are incremented in five places, on success, on failure, and where a failure is swallowed. Along any
trace of a pass they balance with its calls (`Balanced`): each write of a child, each status and each
rejection is counted once. With what the controller adds for passes and for looks at failed ones, the counters
account for a whole course of events.
-/

namespace ServerOperator

/-! ## Traces with counters -/

namespace Program

variable {α β σ : Type}

/-- Whatever the answers are: the calls made, the counters incremented, and the value at the end satisfy `P`. -/
def Books : Program α → (List CallRecord → List Counter → α → Prop) → Prop
  | done a, P => P [] [] a
  | call c next, P => ∀ r, (next r).Books fun calls counted a => P (⟨c, r⟩ :: calls) counted a
  | count k next, P => next.Books fun calls counted a => P calls (k :: counted) a

variable {p : Program α}

theorem Books.imp {P Q : List CallRecord → List Counter → α → Prop} (h : p.Books P)
    (hPQ : ∀ calls counted a, P calls counted a → Q calls counted a) : p.Books Q := by
  induction p generalizing P Q with
  | done a => exact hPQ _ _ _ h
  | call c next ih => exact fun r => ih r (h r) fun calls counted a => hPQ _ counted a
  | count k next ih => exact ih h fun calls counted a => hPQ calls _ a

theorem books_bind {f : α → Program β} {P : List CallRecord → List Counter → β → Prop} :
    (p >>= f).Books P ↔ p.Books fun before counted a => (f a).Books fun after counted' b =>
      P (before ++ after) (counted ++ counted') b := by
  show (p.bind f).Books P ↔ _
  induction p generalizing P with
  | done a => exact Iff.rfl
  | call c next ih => exact forall_congr' fun r => ih r
  | count k next ih => exact ih

theorem books_pure {a : α} {P : List CallRecord → List Counter → α → Prop} :
    (pure a : Program α).Books P ↔ P [] [] a :=
  Iff.rfl

theorem books_tally {k : Counter} {P : List CallRecord → List Counter → Unit → Prop} :
    (tally k).Books P ↔ P [] [k] () :=
  Iff.rfl

theorem books_end {P : List CallRecord → List Counter → α → Prop} {calls : List CallRecord} {counted : List Counter}
    {a : α} : ((pure a : Program α).Books fun after counted' a => P (calls ++ after) (counted ++ counted') a) ↔
      P calls counted a := by
  rw [books_pure, List.append_nil, List.append_nil]

theorem Books.run {P : List CallRecord → List Counter → α → Prop} (h : p.Books P) (handler : Handler σ) (s : σ) :
    P (p.calls handler s) (p.run handler s).counted (p.run handler s).value := by
  induction p generalizing P s with
  | done a => exact h
  | call c next ih => exact ih _ (h _) _
  | count k next ih => exact ih h s

end Program

namespace Attempt

variable {α β : Type}

theorem books_bind {x : Attempt α} {f : α → Attempt β}
    {P : List CallRecord → List Counter → Except OperatorError β → Prop} :
    (x >>= f).run.Books P ↔ x.run.Books fun before counted r => match r with
      | .ok a => (f a).run.Books fun after counted' b => P (before ++ after) (counted ++ counted') b
      | .error e => P before counted (.error e) := by
  rw [ExceptT.run_bind, Program.books_bind]
  refine ⟨fun h => h.imp fun before counted r hr => ?_, fun h => h.imp fun before counted r hr => ?_⟩
  · cases r with
    | ok a => exact hr
    | error e => exact Program.books_end.mp hr
  · cases r with
    | ok a => exact hr
    | error e => exact Program.books_end.mpr hr

theorem books_pure {a : α} {P : List CallRecord → List Counter → Except OperatorError α → Prop} :
    (pure a : Attempt α).run.Books P ↔ P [] [] (.ok a) :=
  Iff.rfl

theorem books_throw {e : OperatorError} {P : List CallRecord → List Counter → Except OperatorError α → Prop} :
    (throw e : Attempt α).run.Books P ↔ P [] [] (.error e) :=
  Iff.rfl

theorem books_call {c : Call} {error : StoreFailure → OperatorError}
    {P : List CallRecord → List Counter → Except OperatorError c.Answer → Prop} : (call c error).run.Books P ↔
      (∀ a, P [⟨c, .ok a⟩] [] (.ok a)) ∧ ∀ f, P [⟨c, .error f⟩] [] (.error (error f)) := by
  refine ⟨fun h => ⟨fun a => h (.ok a), fun f => h (.error f)⟩, fun h r => ?_⟩
  cases r with
  | ok a => exact h.1 a
  | error f => exact h.2 f

theorem books_tally {k : Counter} {P : List CallRecord → List Counter → Except OperatorError Unit → Prop} :
    (tally k).run.Books P ↔ P [] [k] (.ok ()) :=
  Iff.rfl

theorem books_lift {p : Program α} {P : List CallRecord → List Counter → Except OperatorError α → Prop} :
    (monadLift p : Attempt α).run.Books P ↔ p.Books fun calls counted a => P calls counted (.ok a) := by
  refine (Program.books_bind (f := fun a => pure (Except.ok a : Except OperatorError α))).trans ?_
  exact ⟨fun h => h.imp fun _ _ _ => Program.books_end.mp, fun h => h.imp fun _ _ _ => Program.books_end.mpr⟩

end Attempt

theorem Server.books_statusCall {srv : Server} {phase : Phase} {c : Call}
    {P : List CallRecord → List Counter → Except OperatorError c.Answer → Prop} :
    (srv.statusCall phase c).run.Books P ↔ (∀ a, P [⟨c, .ok a⟩] [] (.ok a)) ∧
      ∀ f, P [⟨c, .error f⟩] [.statusUpdates "error"] (.error (srv.statusFailed phase f)) := by
  refine ⟨fun h => ⟨fun a => h (.ok a), fun f => h (.error f)⟩, fun h r => ?_⟩
  cases r with
  | ok a => exact h.1 a
  | error f => exact h.2 f

-- From here on the rules above are all there is to know: a pass is not unfolded call by call.
attribute [irreducible] Program.Books

/-! ## What a counter stands for -/

def writesOf (op : Operation) (k : Kind) (writes : List WriteRecord) : Nat :=
  writes.countP fun w => w.operation = op ∧ w.kind = k

/-- A read of the server finds it, or finds out nothing: it is not known to be gone. -/
def CallRecord.findsServer : CallRecord → Bool
  | ⟨.get .server _, .ok none⟩ => false
  | ⟨.get .server _, _⟩ => true
  | _ => false

/-- The updates of a status among calls: each of them begins with a read of the server, and ends there if the server
is gone. -/
def statusUpdates (calls : List CallRecord) : Nat := calls.countP CallRecord.findsServer

def Counter.isRequeue : Counter → Bool
  | .requeues _ => true
  | _ => false

/-- What the controller counts, and not the pass. -/
def Counter.isOuter : Counter → Bool
  | .reconciliations | .reconciliationErrors | .requeues _ => true
  | _ => false

structure Balanced (calls : List CallRecord) (counted : List Counter) (rejections : Nat) : Prop where
  created : ∀ c : Child, counted.count (.resourceOperations c.resource "create") =
    writesOf .create c.kind (calls.filterMap CallRecord.entry?)
  updated : ∀ c : Child, counted.count (.resourceOperations c.resource "update") =
    writesOf .replace c.kind (calls.filterMap CallRecord.entry?)
  written : counted.count (.statusUpdates "written") = (calls.filterMap CallRecord.status?).length
  attempted : counted.count (.statusUpdates "written") + counted.count (.statusUpdates "skipped") +
    counted.count (.statusUpdates "error") = statusUpdates calls
  rejected : counted.count .validationFailures = rejections
  inner : ∀ k ∈ counted, k.isOuter = false

namespace Balanced

theorem nil : Balanced [] [] 0 := by
  constructor <;> first | rfl | exact fun _ => rfl | exact List.forall_mem_nil _

theorem append {before after : List CallRecord} {counted counted' : List Counter} {m n : Nat}
    (h : Balanced before counted m) (h' : Balanced after counted' n) :
    Balanced (before ++ after) (counted ++ counted') (m + n) where
  created c := by
    rw [List.count_append, h.created, h'.created, List.filterMap_append]
    exact List.countP_append.symm
  updated c := by
    rw [List.count_append, h.updated, h'.updated, List.filterMap_append]
    exact List.countP_append.symm
  written := by rw [List.count_append, h.written, h'.written, List.filterMap_append, List.length_append]
  attempted := by
    have hsum := h.attempted
    have hsum' := h'.attempted
    simp only [List.count_append, statusUpdates, List.countP_append] at hsum hsum' ⊢
    omega
  rejected := by rw [List.count_append, h.rejected, h'.rejected]
  inner := List.forall_mem_append.mpr ⟨h.inner, h'.inner⟩

section
variable {calls : List CallRecord} {counted : List Counter} {n : Nat} (h : Balanced calls counted n)

include h in
theorem count_outer {k : Counter} (hk : k.isOuter = true) : counted.count k = 0 :=
  List.count_eq_zero.mpr fun hmem => Bool.false_ne_true ((h.inner k hmem).symm.trans hk)

include h in
theorem countP_isRequeue : counted.countP Counter.isRequeue = 0 := by
  refine List.countP_eq_zero.mpr fun k hmem => ?_
  have hk := h.inner k hmem
  cases k <;> first | exact Bool.false_ne_true | cases hk

include h in
theorem filter_inner : counted.filter (fun k => !k.isOuter) = counted :=
  List.filter_eq_self.mpr fun k hmem => by rw [h.inner k hmem]; rfl

end

/-- A call that writes nothing and does not begin the update of a status is not counted. -/
theorem of_idle {r : CallRecord} (entry : r.entry? = none) (status : r.status? = none) (finds : r.findsServer = false) :
    Balanced [r] [] 0 where
  created c := by rw [List.filterMap_cons_none entry]; rfl
  updated c := by rw [List.filterMap_cons_none entry]; rfl
  written := by rw [List.filterMap_cons_none status]; rfl
  attempted := by rw [statusUpdates, List.countP_cons_of_neg (by rw [finds]; exact Bool.false_ne_true)]; rfl
  rejected := rfl
  inner := List.forall_mem_nil _

/-- One update of a status is counted by one of the three results. -/
theorem of_update {calls : List CallRecord} {result : String} (known : result ∈ ["written", "skipped", "error"])
    (entries : calls.filterMap CallRecord.entry? = [])
    (written : (calls.filterMap CallRecord.status?).length = [result].count "written") (one : statusUpdates calls = 1) :
    Balanced calls [.statusUpdates result] 0 where
  created c := by rw [entries]; rfl
  updated c := by rw [entries]; rfl
  written := by simp only [written, List.count_singleton, beq_iff_eq, Counter.statusUpdates.injEq]
  attempted := by
    rw [one]
    simp only [List.mem_cons, List.not_mem_nil, or_false] at known
    rcases known with rfl | rfl | rfl <;> rfl
  rejected := rfl
  inner := List.forall_mem_singleton.mpr rfl

end Balanced

/-! ## The parts of a pass -/

def rejectionsBehind {α : Type} (n : OperatorError → Nat) : Except OperatorError α → Nat
  | .ok _ => 0
  | .error e => n e

@[simp]
theorem rejectionsBehind_ok {α : Type} (n : OperatorError → Nat) (a : α) : rejectionsBehind n (.ok a) = 0 := rfl

@[simp]
theorem rejectionsBehind_error {α : Type} (n : OperatorError → Nat) (e : OperatorError) :
    rejectionsBehind n (.error e : Except OperatorError α) = n e := rfl

def Attempt.Balances {α : Type} (x : Attempt α) (n : OperatorError → Nat) : Prop :=
  x.run.Books fun calls counted r => Balanced calls counted (rejectionsBehind n r)

namespace Attempt

variable {α β : Type} {n : OperatorError → Nat}

theorem balances_pure (a : α) : (pure a : Attempt α).Balances n := books_pure.mpr .nil

theorem balances_throw {e : OperatorError} (h : n e = 0) : (throw e : Attempt α).Balances n :=
  books_throw.mpr <| show Balanced [] [] (n e) from h ▸ .nil

theorem balances_ofExcept {r : Except OperatorError α} (h : ∀ e, r = .error e → n e = 0) : (ofExcept r).Balances n := by
  cases r with
  | ok a => exact balances_pure a
  | error e => exact balances_throw (h e rfl)

theorem balances_bind {x : Attempt α} {f : α → Attempt β} (hx : x.Balances n) (hf : ∀ a, (f a).Balances n) :
    (x >>= f).Balances n := by
  rw [Balances, books_bind]
  refine Program.Books.imp hx fun before counted r hr => ?_
  cases r with
  | ok a =>
    refine Program.Books.imp (hf a) fun after counted' b hb => ?_
    have h := hr.append hb
    rwa [rejectionsBehind_ok, Nat.zero_add] at h
  | error e => exact hr

theorem balances_read {k : Kind} (hk : k ≠ .server) (key : Key) {error : StoreFailure → OperatorError}
    (h : ∀ f, n (error f) = 0) : (call (.get k key) error).Balances n := by
  have hread : ∀ r, Balanced [⟨.get k key, r⟩] [] 0 := fun r => .of_idle rfl rfl <| by
    cases k <;> first | rfl | exact absurd rfl hk
  exact books_call.mpr ⟨fun a => hread _, fun f => show Balanced _ _ (n _) from (h f).symm ▸ hread _⟩

end Attempt

namespace Child

variable (c : Child) (srv : Server)

/-- A write of a child that succeeds is counted. -/
theorem balanced_write (call : Call) (a : call.Answer) (operation : String)
    (h : (∃ space o, call = .create c.kind space o ∧ operation = "create") ∨
      ∃ key o, call = .replace c.kind key o ∧ operation = "update") :
    Balanced [⟨call, .ok a⟩] [.resourceOperations c.resource operation] 0 := by
  rcases h with ⟨space, o, rfl, rfl⟩ | ⟨key, o, rfl, rfl⟩
  all_goals
    constructor
    · intro d; cases c <;> cases d <;> rfl
    · intro d; cases c <;> cases d <;> rfl
    · rfl
    · cases c <;> rfl
    · rfl
    · exact List.forall_mem_singleton.mpr rfl

theorem balanced_failed (call : Call) (f : StoreFailure) (h : call.isRead = false) :
    Balanced [⟨call, .error f⟩] [] 0 := by
  cases call with
  | get => cases h
  | create | replace | patchStatus => exact .of_idle rfl rfl rfl

theorem create_balances {n : OperatorError → Nat} (w : c.kind.Object)
    (h : ∀ operation f, n (c.callFailed srv operation f) = 0) : (c.create srv w).Balances n := by
  rw [create, Attempt.Balances, Attempt.books_bind, Attempt.books_call]
  refine ⟨fun a => Attempt.books_tally.mpr ?_, fun f => show Balanced _ _ (n _) from h _ f ▸ balanced_failed _ f rfl⟩
  exact c.balanced_write _ a "create" (.inl ⟨_, _, rfl, rfl⟩)

theorem update_balances {n : OperatorError → Nat} (o : c.kind.Object)
    (h : ∀ operation f, n (c.callFailed srv operation f) = 0) : (c.update srv o).Balances n := by
  rw [update, Attempt.Balances, Attempt.books_bind, Attempt.books_call]
  refine ⟨fun a => Attempt.books_tally.mpr ?_, fun f => show Balanced _ _ (n _) from h _ f ▸ balanced_failed _ f rfl⟩
  exact c.balanced_write _ a "update" (.inr ⟨_, _, rfl, rfl⟩)

/-- Bringing a child up to date rejects nothing, whatever the error. -/
theorem apply_balances : (c.apply srv).Balances fun _ => 0 := by
  rw [apply]
  refine Attempt.balances_bind (Attempt.balances_ofExcept fun _ _ => rfl) fun w => ?_
  refine Attempt.balances_bind (Attempt.balances_read c.kind_ne_server _ fun _ => rfl) fun live => ?_
  cases live with
  | none => exact c.create_balances srv w fun _ _ => rfl
  | some live =>
    dsimp only
    split
    · exact Attempt.balances_pure ()
    · exact c.update_balances srv _ fun _ _ => rfl

theorem readiness_balances {n : OperatorError → Nat} (h : ∀ f, n (c.readFailed srv f) = 0) :
    (c.readiness srv).Balances n :=
  Attempt.balances_bind (Attempt.balances_read c.kind_ne_server _ h) fun _ => Attempt.balances_pure _

end Child

section
variable (srv : Server) {n : OperatorError → Nat}

theorem forM_apply_balances : ∀ cs : List Child, (cs.forM (·.apply srv)).Balances fun _ => 0
  | [] => Attempt.balances_pure ()
  | c :: cs => Attempt.balances_bind (c.apply_balances srv) fun _ => forM_apply_balances cs

theorem Server.applyChildren_balances : srv.applyChildren.Balances fun _ => 0 := forM_apply_balances srv Child.all

theorem Server.readiness_balances (h : ∀ (c : Child) f, n (c.readFailed srv f) = 0) : srv.readiness.Balances n := by
  rw [Server.readiness]
  refine Attempt.balances_bind (Child.readiness_balances _ srv (h _)) fun _ => ?_
  refine Attempt.balances_bind (Child.readiness_balances _ srv (h _)) fun _ => ?_
  exact Attempt.balances_bind (Child.readiness_balances _ srv (h _)) fun _ => Attempt.balances_pure _

/-- The update of a status is counted once, by how it ends; only one that finds the server gone is not. -/
theorem Server.writeStatus_balances (phase : Phase) (message : String) (r : Readiness)
    (h : ∀ f, n (srv.statusFailed phase f) = 0) : (srv.writeStatus phase message r).Balances n := by
  rw [Server.writeStatus, Attempt.Balances, Attempt.books_bind, Server.books_statusCall]
  refine ⟨fun latest => ?_, fun f => ?_⟩
  · cases latest with
    | none => exact Attempt.books_pure.mpr (.of_idle rfl rfl rfl)
    | some latest =>
      dsimp only
      split
      · exact Attempt.books_tally.mpr (.of_update (by decide) rfl rfl rfl)
      · rw [Attempt.books_bind, Server.books_statusCall]
        refine ⟨fun _ => Attempt.books_tally.mpr (.of_update (by decide) rfl rfl rfl), fun f => ?_⟩
        dsimp only
        rw [rejectionsBehind_error, h]
        exact .of_update (by decide) rfl rfl rfl
  · dsimp only
    rw [rejectionsBehind_error, h]
    exact .of_update (by decide) rfl rfl rfl

theorem Attempt.Balances.balanced {α : Type} {x : Attempt α} (h : x.Balances fun _ => 0) :
    x.run.Books fun calls counted _ => Balanced calls counted 0 :=
  Program.Books.imp h fun calls counted r hr => by cases r <;> exact hr

def rejections (e : OperatorError) : Nat := e.isValidation.toNat

namespace Pass

/-- A rejection is counted once, whatever fails on the way to report it. -/
theorem report_balanced (e : OperatorError) : (report srv e).Books fun calls counted _ => Balanced calls counted 1 := by
  have hcounted : Balanced [] [.validationFailures] 1 := by
    constructor <;> first | rfl | exact fun _ => rfl | exact List.forall_mem_singleton.mpr rfl
  rw [report, Program.books_bind, Program.books_tally, Program.books_bind]
  refine (srv.readiness_balances fun _ _ => rfl).balanced.imp fun before counted r hr => ?_
  rw [Program.books_bind]
  refine (srv.writeStatus_balances .failed e.message (r.toOption.getD {}) fun _ => rfl).balanced.imp
    fun after counted' _ hw => ?_
  rw [Program.books_pure, List.append_nil, List.append_nil]
  exact hcounted.append (hr.append hw)

theorem reject_balances {α : Type} {e : OperatorError} (he : e.isValidation = true) :
    (reject srv e : Attempt α).Balances rejections := by
  rw [reject, Attempt.Balances, ExceptT.run_mk, Program.books_bind]
  refine (report_balanced srv e).imp fun calls counted _ h => ?_
  rw [Program.books_pure, List.append_nil, List.append_nil, rejectionsBehind_error, rejections, he]
  exact h

theorem converge_balances : (converge srv).Balances rejections := by
  rw [converge, Attempt.Balances, Attempt.books_bind, Attempt.books_lift]
  refine srv.applyChildren_balances.balanced.imp fun before counted r hr => ?_
  -- The children's part has counted no rejection, so that those of the pass are those of what comes next.
  have hnext {x : Attempt Outcome} (hx : x.Balances rejections) : x.run.Books fun after counted' r =>
      Balanced (before ++ after) (counted ++ counted') (rejectionsBehind rejections r) :=
    Program.Books.imp hx fun after counted' r' h => by
      have h := hr.append h
      rwa [Nat.zero_add] at h
  cases r with
  | error e =>
    dsimp only
    split
    · next he => exact hnext (reject_balances srv he)
    · next he => exact hnext (Attempt.balances_throw (by simp [rejections, he]))
  | ok _ =>
    refine hnext ?_
    refine Attempt.balances_bind (srv.readiness_balances fun _ _ => rfl) fun r => ?_
    exact Attempt.balances_bind (srv.writeStatus_balances _ _ _ fun _ => rfl) fun _ => Attempt.balances_pure _

theorem ofServer_balances (key : Key) : (ofServer key srv).Balances rejections := by
  cases hv : srv.validate with
  | error e =>
    rw [ofServer_of_fault (Server.fault?_eq_some_iff.mpr (.inl hv))]
    exact reject_balances srv (Server.isValidation_of_validate hv)
  | ok _ =>
    cases hd : srv.fillDefaults.2 with
    | false =>
      rw [ofServer_of_complete hv hd]
      exact converge_balances srv
    | true =>
      rw [ofServer_of_open hv hd, Attempt.Balances, Attempt.books_bind, Attempt.books_call]
      -- Filling in defaults is a write of the server, which is no child: it is logged and not counted.
      have hfilled (r) : Balanced [⟨.replace .server key srv.fillDefaults.1, r⟩] [] 0 := by
        constructor
        · intro c; cases r <;> cases c <;> rfl
        · intro c; cases r <;> cases c <;> rfl
        · cases r <;> rfl
        · rfl
        · rfl
        · exact List.forall_mem_nil _
      exact ⟨fun a => Attempt.books_pure.mpr (hfilled (.ok a)), fun f => hfilled (.error f)⟩

end Pass

end

/-- After the read that fetches the server, calls and counters of a pass balance. -/
theorem pass_balances (key : Key) : (pass key).run.Books fun calls counted r => ∃ fetched rest,
    calls = ⟨.get .server key, fetched⟩ :: rest ∧
      Balanced rest counted (rejectionsBehind rejections r) := by
  rw [pass, Attempt.books_bind, Attempt.books_call]
  refine ⟨fun found => ?_, fun f => ⟨.error f, [], rfl, .nil⟩⟩
  cases found with
  | none => exact Attempt.books_pure.mpr ⟨.ok none, [], rfl, .nil⟩
  | some srv => exact (Pass.ofServer_balances srv key).imp fun rest counted r h => ⟨_, rest, rfl, h⟩

end ServerOperator
