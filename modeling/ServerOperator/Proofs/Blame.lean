import ServerOperator.OperatorError.Report
import ServerOperator.Proofs.Endings

/-!
# Which call failed

A pass that gives up stops at the first call that fails, and its error says which one that was, although the same
object may be read in more than one role. This is read off the program along its whole trace, whatever the
answers are: each part of the pass either ends with all its calls answered, or with a failed call after which
there is none (`FailsFast`).
-/

namespace ServerOperator

/-! ## Traces -/

namespace Program

variable {α β σ : Type}

/-- Whatever the answers are: the calls made, each with its answer, and the value at the end satisfy `P`. -/
def Traces : Program α → (List CallRecord → α → Prop) → Prop
  | done a, P => P [] a
  | call c next, P => ∀ r, (next r).Traces fun calls a => P (⟨c, r⟩ :: calls) a
  | count _ next, P => next.Traces P

variable {p : Program α}

theorem Traces.imp {P Q : List CallRecord → α → Prop} (h : p.Traces P) (hPQ : ∀ calls a, P calls a → Q calls a) :
    p.Traces Q := by
  induction p generalizing P Q with
  | done a => exact hPQ _ _ h
  | call c next ih => exact fun r => ih r (h r) fun calls a => hPQ _ a
  | count c next ih => exact ih h hPQ

theorem traces_done {a : α} {P : List CallRecord → α → Prop} : (done a).Traces P ↔ P [] a := Iff.rfl

theorem traces_of_forall {P : List CallRecord → α → Prop} (h : ∀ calls a, P calls a) : p.Traces P := by
  induction p generalizing P with
  | done a => exact h _ _
  | call c next ih => exact fun r => ih r fun calls a => h _ a
  | count c next ih => exact ih h

theorem traces_bind {f : α → Program β} {P : List CallRecord → β → Prop} :
    (p >>= f).Traces P ↔ p.Traces fun before a => (f a).Traces fun after b => P (before ++ after) b := by
  show (p.bind f).Traces P ↔ _
  induction p generalizing P with
  | done a => exact Iff.rfl
  | call c next ih => exact forall_congr' fun r => ih r
  | count c next ih => exact ih

theorem Traces.run {handler : Handler σ} {P : List CallRecord → α → Prop} (h : p.Traces P) (s : σ) :
    P (p.calls handler s) (p.run handler s).value := by
  induction p generalizing P s with
  | done a => exact h
  | call c next ih => exact ih _ (h _) _
  | count c next ih => exact ih h s

end Program

/-! ## Attempts that stop at a failed call -/

def CallRecord.Succeeded (r : CallRecord) : Prop := r.answer.isOk = true

def reads (calls : List CallRecord) : List Kind :=
  calls.filterMap fun r => match r.call with
    | .get k _ => some k
    | _ => none

@[simp] theorem reads_nil : reads [] = [] := rfl

@[simp] theorem reads_get (k : Kind) (key : Key) (a : Except StoreFailure (Option k.Object))
    (calls : List CallRecord) : reads (⟨.get k key, a⟩ :: calls) = k :: reads calls := rfl

@[simp] theorem reads_append (before after : List CallRecord) :
    reads (before ++ after) = reads before ++ reads after :=
  List.filterMap_append

/-- What a failed call, the calls before it, and its failure have to do with the error they end in. -/
abbrev BlameRule := List CallRecord → Call → StoreFailure → OperatorError → Prop

namespace Attempt

variable {α β : Type}

theorem traces_call {c : Call} {error : StoreFailure → OperatorError}
    {P : List CallRecord → Except OperatorError c.Answer → Prop} : (call c error).run.Traces P ↔
      (∀ a, P [⟨c, .ok a⟩] (.ok a)) ∧ ∀ f, P [⟨c, .error f⟩] (.error (error f)) := by
  refine ⟨fun h => ⟨fun a => h (.ok a), fun f => h (.error f)⟩, fun h r => ?_⟩
  cases r with
  | ok a => exact h.1 a
  | error f => exact h.2 f

/-- Every call succeeded, and calls and value satisfy `Q`; or the last call is the one that failed, and `B` holds of
it and the error. -/
def Settled (Q : List CallRecord → α → Prop) (B : BlameRule) (calls : List CallRecord) : Except OperatorError α → Prop
  | .ok a => (∀ r ∈ calls, r.Succeeded) ∧ Q calls a
  | .error e => ∃ before c f, calls = before ++ [⟨c, .error f⟩] ∧ (∀ r ∈ before, r.Succeeded) ∧ B before c f e

def FailsFast (x : Attempt α) (Q : List CallRecord → α → Prop) (B : BlameRule) : Prop :=
  x.run.Traces (Settled Q B)

variable {Q : List CallRecord → α → Prop} {B : BlameRule}

theorem FailsFast.imp {x : Attempt α} {Q' : List CallRecord → α → Prop} {B' : BlameRule} (h : x.FailsFast Q B)
    (hQ : ∀ calls a, Q calls a → Q' calls a) (hB : ∀ before c f e, B before c f e → B' before c f e) :
    x.FailsFast Q' B' := by
  refine Program.Traces.imp h fun calls r hr => ?_
  cases r with
  | ok a => exact ⟨hr.1, hQ _ _ hr.2⟩
  | error e =>
    obtain ⟨before, c, f, hcalls, hbefore, hb⟩ := hr
    exact ⟨before, c, f, hcalls, hbefore, hB _ _ _ _ hb⟩

theorem failsFast_pure {a : α} (h : Q [] a) : (pure a : Attempt α).FailsFast Q B :=
  ⟨List.forall_mem_nil _, h⟩

theorem failsFast_tally {c : Counter} {Q : List CallRecord → Unit → Prop} (h : Q [] ()) : (tally c).FailsFast Q B :=
  ⟨List.forall_mem_nil _, h⟩

theorem failsFast_call {c : Call} {error : StoreFailure → OperatorError} {Q : List CallRecord → c.Answer → Prop}
    (hQ : ∀ a, Q [⟨c, .ok a⟩] a) (hB : ∀ f, B [] c f (error f)) : (call c error).FailsFast Q B :=
  traces_call.mpr ⟨fun a => ⟨List.forall_mem_singleton.mpr rfl, hQ a⟩,
    fun f => ⟨[], c, f, rfl, List.forall_mem_nil _, hB f⟩⟩

/-- After calls that succeeded, the rest decides. -/
theorem FailsFast.after {x : Attempt α} {before : List CallRecord} (hbefore : ∀ r ∈ before, r.Succeeded)
    (h : x.FailsFast (fun after a => Q (before ++ after) a) fun after => B (before ++ after)) :
    x.run.Traces fun after => Settled Q B (before ++ after) := by
  refine Program.Traces.imp h fun after r hr => ?_
  cases r with
  | ok a => exact ⟨List.forall_mem_append.mpr ⟨hbefore, hr.1⟩, hr.2⟩
  | error e =>
    obtain ⟨between, c, f, rfl, hbetween, hb⟩ := hr
    exact ⟨before ++ between, c, f, (List.append_assoc ..).symm, List.forall_mem_append.mpr ⟨hbefore, hbetween⟩, hb⟩

theorem failsFast_bind {x : Attempt α} {f : α → Attempt β} {Q' : List CallRecord → β → Prop} (hx : x.FailsFast Q B)
    (hf : ∀ before a, Q before a →
      (f a).FailsFast (fun after b => Q' (before ++ after) b) fun after => B (before ++ after)) :
    (x >>= f).FailsFast Q' B := by
  rw [FailsFast, ExceptT.run_bind, Program.traces_bind]
  refine Program.Traces.imp hx fun before r hr => ?_
  cases r with
  | ok a => exact (hf before a hr.2).after hr.1
  | error e =>
    obtain ⟨before, c, fl, rfl, hbefore, hb⟩ := hr
    exact ⟨before, c, fl, List.append_nil _, hbefore, hb⟩

/-- An attempt whose errors are looked at, and those of failed calls thrown again. -/
theorem failsFast_caught {x : Attempt α} {g : Except OperatorError α → Attempt β} {Q' : List CallRecord → β → Prop}
    (hx : x.FailsFast Q B) (hthrow : ∀ before c f e, B before c f e → g (.error e) = throw e)
    (hg : ∀ before a, Q before a →
      (g (.ok a)).FailsFast (fun after b => Q' (before ++ after) b) fun after => B (before ++ after)) :
    (monadLift x.run >>= g : Attempt β).FailsFast Q' B := by
  have hrun : (monadLift x.run >>= g : Attempt β).run = x.run >>= fun r => (g r).run :=
    Program.bind_assoc x.run (fun r => .done (.ok r : Except OperatorError (Except OperatorError α))) _
  rw [FailsFast, hrun, Program.traces_bind]
  refine Program.Traces.imp hx fun before r hr => ?_
  cases r with
  | ok a => exact (hg before a hr.2).after hr.1
  | error e =>
    obtain ⟨before, c, fl, rfl, hbefore, hb⟩ := hr
    rw [hthrow _ _ _ _ hb]
    exact ⟨before, c, fl, List.append_nil _, hbefore, hb⟩

/-- What a run of the attempt has made of its calls. -/
theorem FailsFast.run {σ : Type} {handler : Program.Handler σ} {x : Attempt α} (h : x.FailsFast Q B) (s : σ) :
    Settled Q B (x.run.calls handler s) (x.run.run handler s).value :=
  Program.Traces.run h s

end Attempt

theorem Server.statusCall_failsFast {srv : Server} {phase : Phase} {c : Call} {Q : List CallRecord → c.Answer → Prop}
    {B : BlameRule} (hQ : ∀ a, Q [⟨c, .ok a⟩] a) (hB : ∀ f, B [] c f (srv.statusFailed phase f)) :
    (srv.statusCall phase c).FailsFast Q B := by
  intro r
  cases r with
  | ok a => exact ⟨List.forall_mem_singleton.mpr rfl, hQ a⟩
  | error f => exact ⟨[], c, f, rfl, List.forall_mem_nil _, hB f⟩

-- From here on the rules are used; unfolding would run the program at hand.
attribute [irreducible] Program.Traces Attempt.FailsFast

/-! ## Errors -/

def OperatorError.Logged (e : OperatorError) : Prop := ∀ k, (e.context.get? k).isSome = true → k ∈ loggedContext

structure OperatorError.Reports (e : OperatorError) (key : Key) : Prop where
  server : e.context.get? "mcpServer" = some key.name
  space : e.context.get? "namespace" = some key.space
  logged : e.Logged

def Readiness.reads (key : Key) (deployment : Option Deployment) (service : Option Service)
    (ingress : Option Ingress) : List CallRecord :=
  [⟨.get .deployment key, .ok deployment⟩, ⟨.get .service key, .ok service⟩, ⟨.get .ingress key, .ok ingress⟩]

def Readiness.found (deployment : Option Deployment) (service : Option Service) (ingress : Option Ingress) :
    Readiness where
  deployment := Child.deployment.isReady deployment
  service := Child.service.isReady service
  ingress := Child.ingress.isReady ingress

inductive Child.Applying (c : Child) (key : Key) (before : List CallRecord) : Call → String → Prop where
  | get (first : c.kind ∉ reads before) : c.Applying key before (.get c.kind key) "get"
  | create (o : c.kind.Object) : c.Applying key before (.create c.kind key.space o) "create"
  | update (o : c.kind.Object) : c.Applying key before (.replace c.kind key o) "update"

/-- What the kind and the context of an error say about the call that failed, by its role in the pass at `key`. -/
inductive Blames (key : Key) (before : List CallRecord) : Call → OperatorError → Prop where
  | fetch {e : OperatorError} (first : before = []) (kind : e.kind = .fetchServer) :
    Blames key before (.get .server key) e
  | defaults {e : OperatorError} (filled : Server) (kind : e.kind = .applyDefaults) :
    Blames key before (.replace .server key filled) e
  | child {e : OperatorError} {call : Call} (c : Child) (operation : String)
    (applying : c.Applying key before call operation) (kind : e.kind = c.errorKind)
    (resource : e.context.get? "resource" = some c.resource)
    (op : e.context.get? "operation" = some operation) : Blames key before call e
  | readiness {e : OperatorError} (c : Child) (second : (reads before).count c.kind = 1)
    (kind : e.kind = .checkReadiness) (resource : e.context.get? "resource" = some c.resource) :
    Blames key before (.get c.kind key) e
  | statusRead {e : OperatorError} {earlier : List CallRecord} (deployment : Option Deployment)
    (service : Option Service) (ingress : Option Ingress) (second : (reads before).count .server = 1)
    (seen : before = earlier ++ Readiness.reads key deployment service ingress) (kind : e.kind = .updateStatus)
    (phase : e.context.get? "phase" = some (Readiness.found deployment service ingress).phase.name) :
    Blames key before (.get .server key) e
  | statusWrite {e : OperatorError} (status : ServerStatus) (phase : Phase) (written : status.phase = some phase)
    (kind : e.kind = .updateStatus) (context : e.context.get? "phase" = some phase.name) :
    Blames key before (.patchStatus key status) e

structure Identifies (key : Key) (before : List CallRecord) (call : Call) (f : StoreFailure) (e : OperatorError) :
    Prop where
  blames : Blames key before call e
  cause : e.cause? = some (String.intercalate ": " (f.message :: f.causes))
  reports : e.Reports key

namespace OperatorError

variable {e : OperatorError} {key : Key}

theorem get?_withContext (k k' v : String) :
    (e.withContext k v).context.get? k' = if k = k' then some v else e.context.get? k' :=
  SortedMap.get?_insert ..

theorem logged_of_isEmpty (h : e.context = ∅) : e.Logged := fun k hk => by
  rw [h] at hk
  cases hk

theorem Logged.withContext (h : e.Logged) {k v : String} (hk : k ∈ loggedContext) : (e.withContext k v).Logged :=
  fun k' hk' => by
    rw [get?_withContext] at hk'
    split at hk'
    · next e => exact e ▸ hk
    · exact h k' hk'

theorem Logged.reports (h : e.Logged) :
    ((e.withContext "mcpServer" key.name).withContext "namespace" key.space).Reports key where
  server := by
    rw [get?_withContext, if_neg (by decide), get?_withContext]
    rfl
  space := by
    rw [get?_withContext]
    rfl
  logged := (h.withContext (by decide)).withContext (by decide)

theorem Reports.withContext (h : e.Reports key) {k v : String} (hk : k ∈ loggedContext) (hserver : k ≠ "mcpServer")
    (hspace : k ≠ "namespace") : (e.withContext k v).Reports key where
  server := by rw [get?_withContext, if_neg hserver, h.server]
  space := by rw [get?_withContext, if_neg hspace, h.space]
  logged := h.logged.withContext hk

theorem reports_serverContext (h : e.context = serverContext key.name key.space) : e.Reports key := by
  obtain ⟨kind, message, context, causes⟩ := e
  cases h
  exact Logged.reports (e := ⟨kind, message, ∅, causes⟩) (logged_of_isEmpty rfl)

end OperatorError

theorem Blames.isValidation {key : Key} {before : List CallRecord} {call : Call} {e : OperatorError}
    (h : Blames key before call e) : e.isValidation = false := by
  rw [OperatorError.isValidation]
  cases h with
  | fetch _ kind | defaults _ kind | readiness _ _ kind | statusRead _ _ _ _ _ kind | statusWrite _ _ _ kind =>
    rw [kind]
    rfl
  | child c _ _ kind =>
    rw [kind]
    cases c <;> rfl

/-! ## The parts of a pass -/

def identified (key : Key) (earlier : List CallRecord) : BlameRule := fun before => Identifies key (earlier ++ before)

theorem identified_append (key : Key) (earlier before : List CallRecord) :
    (fun after => identified key earlier (before ++ after)) = identified key (earlier ++ before) :=
  funext fun after => by rw [identified, identified, List.append_assoc]

namespace Attempt

variable {α β : Type} {key : Key} {earlier : List CallRecord} {Q : List CallRecord → α → Prop}
  {Q' : List CallRecord → β → Prop}

theorem FailsFast.bind {x : Attempt α} {f : α → Attempt β} (hx : x.FailsFast Q (identified key earlier))
    (hf : ∀ before a, Q before a →
      (f a).FailsFast (fun after b => Q' (before ++ after) b) (identified key (earlier ++ before))) :
    (x >>= f).FailsFast Q' (identified key earlier) :=
  failsFast_bind hx fun before a h => identified_append key earlier before ▸ hf before a h

end Attempt

section
variable {srv : Server} {earlier : List CallRecord}

theorem Child.identifies_call {c : Child} {call : Call} {operation : String}
    (h : c.Applying srv.key earlier call operation) (f : StoreFailure) :
    Identifies srv.key earlier call f (c.callFailed srv operation f) where
  blames := by
    refine .child c operation h rfl ?_ ?_
    · rw [callFailed, OperatorError.get?_withContext, OperatorError.get?_withContext]
      rfl
    · rw [callFailed, OperatorError.get?_withContext]
      rfl
  cause := rfl
  reports := ((OperatorError.reports_serverContext rfl).withContext (by decide) (by decide) (by decide)).withContext
    (by decide) (by decide) (by decide)

theorem Child.apply_failsFast {c : Child} {w : c.kind.Object} (hw : c.wanted srv = .ok w)
    (first : c.kind ∉ reads earlier) :
    (c.apply srv).FailsFast (fun calls _ => reads calls = [c.kind]) (identified srv.key earlier) := by
  rw [apply, hw]
  show (Attempt.call (.get c.kind srv.key) (c.callFailed srv "get") >>= _).FailsFast _ _
  refine Attempt.FailsFast.bind (Q := fun calls a => calls = [⟨.get c.kind srv.key, .ok a⟩])
    (Attempt.failsFast_call (fun _ => rfl) fun f => identifies_call (.get ?_) f) fun calls live hcalls => ?_
  · rwa [List.append_nil]
  subst hcalls
  cases live with
  | none =>
    refine Attempt.FailsFast.bind (Q := fun calls _ => reads calls = [])
      (Attempt.failsFast_call (fun _ => rfl) fun f => identifies_call (.create w) f) fun calls _ hcalls => ?_
    refine Attempt.failsFast_tally ?_
    simp [hcalls]
  | some live =>
    dsimp only
    split
    · exact Attempt.failsFast_pure rfl
    · refine Attempt.FailsFast.bind (Q := fun calls _ => reads calls = [])
        (Attempt.failsFast_call (fun _ => rfl) fun f => identifies_call (.update _) f) fun calls _ hcalls => ?_
      refine Attempt.failsFast_tally ?_
      simp [hcalls]

theorem forM_apply_failsFast (hw : ∀ c : Child, ∃ w, c.wanted srv = .ok w) :
    ∀ (cs : List Child) (earlier : List CallRecord), cs.Nodup → (∀ c ∈ cs, c.kind ∉ reads earlier) →
      (cs.forM (·.apply srv)).FailsFast (fun calls _ => reads calls = cs.map (·.kind)) (identified srv.key earlier)
  | [], _, _, _ => Attempt.failsFast_pure rfl
  | c :: cs, earlier, hn, first => by
    obtain ⟨hc, hn⟩ := List.nodup_cons.mp hn
    obtain ⟨hfirst, hrest⟩ := List.forall_mem_cons.mp first
    obtain ⟨w, hw'⟩ := hw c
    show (c.apply srv >>= fun _ => cs.forM (·.apply srv)).FailsFast _ _
    refine (c.apply_failsFast hw' hfirst).bind fun before _ hbefore => ?_
    have hfirst' : ∀ d ∈ cs, d.kind ∉ reads (earlier ++ before) := fun d hd h => by
      rw [reads_append, hbefore, List.mem_append, List.mem_singleton] at h
      rcases h with h | h
      · exact hrest d hd h
      · exact hc (Child.kind_injective h ▸ hd)
    refine (forM_apply_failsFast hw cs _ hn hfirst').imp (fun after _ hafter => ?_) fun _ _ _ _ h => h
    rw [reads_append, hbefore, hafter]
    rfl

theorem Child.readiness_failsFast {c : Child} (second : (reads earlier).count c.kind = 1) :
    (c.readiness srv).FailsFast (fun calls ready => ∃ live,
      calls = [⟨.get c.kind srv.key, .ok live⟩] ∧ ready = c.isReady live) (identified srv.key earlier) := by
  rw [readiness]
  refine Attempt.FailsFast.bind (Q := fun calls a => calls = [⟨.get c.kind srv.key, .ok a⟩])
    (Attempt.failsFast_call (fun _ => rfl) fun f => ⟨?_, rfl, ?_⟩) fun calls live hcalls => ?_
  · refine .readiness c (by rwa [List.append_nil]) rfl ?_
    rw [readFailed, OperatorError.get?_withContext]
    rfl
  · exact (OperatorError.reports_serverContext rfl).withContext (by decide) (by decide) (by decide)
  · exact Attempt.failsFast_pure ⟨live, by rw [hcalls]; rfl, rfl⟩

theorem Server.readiness_failsFast (second : ∀ c : Child, (reads earlier).count c.kind = 1) :
    srv.readiness.FailsFast (fun calls r => ∃ deployment service ingress,
      calls = Readiness.reads srv.key deployment service ingress ∧ r = Readiness.found deployment service ingress)
      (identified srv.key earlier) := by
  rw [Server.readiness]
  refine (Child.readiness_failsFast (c := .deployment) (second _)).bind fun calls _ h => ?_
  obtain ⟨deployment, rfl, rfl⟩ := h
  refine (Child.readiness_failsFast (c := .service) ?_).bind fun calls _ h => ?_
  · simpa using second .service
  obtain ⟨service, rfl, rfl⟩ := h
  refine (Child.readiness_failsFast (c := .ingress) ?_).bind fun calls _ h => ?_
  · simpa using second .ingress
  obtain ⟨ingress, rfl, rfl⟩ := h
  exact Attempt.failsFast_pure ⟨deployment, service, ingress, rfl, rfl⟩

theorem Server.identifies_statusCall {phase : Phase} {call : Call} (f : StoreFailure)
    (h : ∀ e : OperatorError, e.kind = .updateStatus → e.context.get? "phase" = some phase.name →
      Blames srv.key earlier call e) : Identifies srv.key earlier call f (srv.statusFailed phase f) where
  blames := by
    refine h _ rfl ?_
    rw [statusFailed, OperatorError.get?_withContext]
    rfl
  cause := rfl
  reports := (OperatorError.reports_serverContext rfl).withContext (by decide) (by decide) (by decide)

theorem Server.writeStatus_failsFast {before : List CallRecord} {deployment : Option Deployment}
    {service : Option Service} {ingress : Option Ingress} (message : String) (r : Readiness)
    (second : (reads earlier).count .server = 1) (seen : earlier = before ++ Readiness.reads srv.key deployment service ingress) :
    (srv.writeStatus (Readiness.found deployment service ingress).phase message r).FailsFast (fun _ _ => True)
      (identified srv.key earlier) := by
  rw [Server.writeStatus]
  refine Attempt.FailsFast.bind (Q := fun _ _ => True) (statusCall_failsFast (fun _ => trivial) fun f => ?_)
    fun calls latest _ => ?_
  · refine identifies_statusCall f fun e hkind hphase => ?_
    rw [List.append_nil]
    exact .statusRead deployment service ingress second seen hkind hphase
  cases latest with
  | none => exact Attempt.failsFast_pure trivial
  | some latest =>
    dsimp only
    split
    · exact Attempt.failsFast_tally trivial
    · refine Attempt.FailsFast.bind (Q := fun _ _ => True) (statusCall_failsFast (fun _ => trivial) fun f => ?_)
        fun _ _ _ => Attempt.failsFast_tally trivial
      exact identifies_statusCall f fun e hkind hphase => .statusWrite _ _ rfl hkind hphase

namespace Pass

theorem converge_failsFast (hw : ∀ c : Child, ∃ w, c.wanted srv = .ok w) (hreads : reads earlier = [.server]) :
    (converge srv).FailsFast (fun _ _ => True) (identified srv.key earlier) := by
  have hfirst : ∀ c ∈ Child.all, c.kind ∉ reads earlier := by
    rw [hreads]
    decide
  have happly := forM_apply_failsFast hw Child.all earlier (by decide) hfirst
  rw [converge]
  refine Attempt.failsFast_caught happly (fun before c f e h => ?_) fun before _ hbefore => ?_
  · dsimp only
    rw [h.blames.isValidation]
    rfl
  rw [identified_append]
  have hall : reads (earlier ++ before) = [.server, .deployment, .service, .ingress] := by
    rw [reads_append, hreads, hbefore]
    rfl
  have hsecond : ∀ c : Child, (reads (earlier ++ before)).count c.kind = 1 := by
    rw [hall]
    intro c
    cases c <;> rfl
  refine (srv.readiness_failsFast hsecond).bind fun calls r h => ?_
  obtain ⟨deployment, service, ingress, rfl, rfl⟩ := h
  refine (srv.writeStatus_failsFast _ _ ?_ rfl).bind fun _ _ _ => Attempt.failsFast_pure trivial
  rw [reads_append, hall]
  rfl

theorem identifies_defaults {key : Key} (filled : Server) (f : StoreFailure) :
    Identifies key earlier (.replace .server key filled) f (defaultsFailed key f) where
  blames := .defaults filled rfl
  cause := rfl
  reports := OperatorError.reports_serverContext rfl

theorem ofServer_failsFast {key : Key} (hkey : srv.key = key) (hf : srv.fault? = none)
    (hreads : reads earlier = [.server]) :
    (ofServer key srv).FailsFast (fun _ _ => True) (identified key earlier) := by
  cases hd : srv.fillDefaults.2 with
  | false =>
    rw [ofServer_of_complete (Server.validate_of_fault hf) hd, ← hkey]
    exact converge_failsFast (wanted_of_sound hf hd) hreads
  | true =>
    rw [ofServer_of_open (Server.validate_of_fault hf) hd]
    refine Attempt.FailsFast.bind (Q := fun _ _ => True) (Attempt.failsFast_call (fun _ => trivial) ?_)
      fun _ _ _ => Attempt.failsFast_pure trivial
    exact identifies_defaults _

end Pass

end

/-! ## Errors of a spec -/

namespace Server

variable {srv : Server} {e : OperatorError}

theorem logged_of_quantityOr {d field : String} {kind : ErrorKind} {value : Option String}
    (h : quantityOr d kind field value = .error e) : e.causes = [] ∧ e.Logged := by
  unfold quantityOr at h
  split at h
  · cases h
  split at h
  · cases h
  · cases h
    exact ⟨rfl, ((OperatorError.logged_of_isEmpty rfl).withContext (by decide)).withContext (by decide)⟩

theorem logged_of_container (h : srv.container? = .error e) : e.causes = [] ∧ e.Logged := by
  rcases container?_eq_error h with h | h
  · rw [ServerSpec.resolveImage_eq_error h]
    exact ⟨rfl, OperatorError.logged_of_isEmpty rfl⟩
  · obtain ⟨_, _, _, _, _, h⟩ := quantityOr_of_resolve h
    exact logged_of_quantityOr h

/-- No call is behind an error of the spec. -/
theorem reports_of_fault (h : srv.fault? = some e) : e.causes = [] ∧ e.Reports srv.key := by
  rcases fault?_eq_some_iff.mp h with h | ⟨_, _, h⟩
  · unfold validate at h
    split at h
    · cases h
      exact ⟨rfl, OperatorError.reports_serverContext rfl⟩
    split at h
    · cases h
      -- The error is made with the entry in place.
      exact ⟨rfl, OperatorError.Reports.withContext (k := "resource") (v := "ingress")
        (e := { kind := .missingIngressPath, message := "ingressPath is required when ingressHost is set"
                context := srv.errorContext })
        (OperatorError.reports_serverContext rfl) (by decide) (by decide) (by decide)⟩
    · cases h
  · unfold deployment at h
    split at h
    · cases h
    next e' he =>
    obtain ⟨hcauses, hlogged⟩ := logged_of_container he
    cases h
    have hreports : OperatorError.Reports
        ((e'.withContext "mcpServer" srv.key.name).withContext "namespace" srv.key.space) srv.key := hlogged.reports
    exact ⟨hcauses, hreports.withContext (by decide) (by decide) (by decide)⟩

end Server

/-! ## The whole pass -/

/-- An error is that of the last call, which failed, or it is one of the spec, without a cause; and it is reported in
either case. -/
def Accounted (key : Key) (calls : List CallRecord) {α : Type} (r : Except OperatorError α) : Prop :=
  ∀ e, r = .error e →
    (∃ before call f, calls = before ++ [⟨call, .error f⟩] ∧ (∀ r ∈ before, r.Succeeded) ∧
      Identifies key before call f e) ∨
    e.isValidation = true ∧ e.causes = [] ∧ e.Reports key

namespace Pass

variable {key : Key} {srv : Server}

theorem reject_traces {α : Type} (srv : Server) (e : OperatorError) :
    (reject srv e : Attempt α).run.Traces fun _ r => r = .error e := by
  rw [reject, ExceptT.run_mk, Program.traces_bind]
  exact Program.traces_of_forall fun _ _ => Program.traces_done.mpr rfl

theorem accounted_of_settled {α : Type} {Q : List CallRecord → α → Prop} {calls : List CallRecord}
    {r : Except OperatorError α} (h : Attempt.Settled Q (identified key []) calls r) : Accounted key calls r := by
  rintro e rfl
  obtain ⟨before, call, f, hcalls, hbefore, he⟩ := h
  exact .inl ⟨before, call, f, hcalls, hbefore, he⟩

theorem ofServer_accounted (hkey : srv.key = key) : (ofServer key srv).run.Traces fun calls r =>
    Accounted key (⟨.get .server key, .ok (some srv)⟩ :: calls) r := by
  cases hf : srv.fault? with
  | some e =>
    rw [ofServer_of_fault hf]
    refine (reject_traces srv e).imp fun calls r hr e' he => ?_
    cases hr.symm.trans he
    obtain ⟨hcauses, hreports⟩ := Server.reports_of_fault hf
    exact .inr ⟨Server.isValidation_of_fault hf, hcauses, hkey ▸ hreports⟩
  | none =>
    have hread : ∀ r ∈ [(⟨.get .server key, .ok (some srv)⟩ : CallRecord)], r.Succeeded :=
      List.forall_mem_singleton.mpr rfl
    have h := Attempt.FailsFast.after (Q := fun _ _ => True) (B := identified key []) hread
      (ofServer_failsFast hkey hf rfl)
    exact h.imp fun calls r => accounted_of_settled

end Pass

/-- Where the server that is read first is the one at `key`, a pass accounts for its error. -/
theorem pass_accounted (key : Key) : (pass key).run.Traces fun calls r =>
    (∀ srv, calls.head? = some ⟨.get .server key, .ok (some srv)⟩ → srv.key = key) → Accounted key calls r := by
  rw [pass, ExceptT.run_bind, Program.traces_bind, Attempt.traces_call]
  refine ⟨fun found => ?_, fun f => Program.traces_done.mpr fun _ e he => ?_⟩
  · cases found with
    | none =>
      refine Program.traces_done.mpr fun _ e he => ?_
      cases he
    | some srv =>
      by_cases hkey : srv.key = key
      · exact (Pass.ofServer_accounted hkey).imp fun calls r h _ => h
      · exact Program.traces_of_forall fun calls r h => absurd (h srv rfl) hkey
  · cases he
    exact .inl ⟨[], _, f, rfl, List.forall_mem_nil _, .fetch rfl rfl, rfl, OperatorError.reports_serverContext rfl⟩

/-- An error of a pass that does not lie in the spec is that of its last call, the only one that failed. -/
theorem error_names_failed_call {σ : Type} (handler : Program.Handler σ) (key : Key) (s : σ)
    (hown : ∀ srv, (handler s (.get .server key)).1 = .ok (some srv) → srv.key = key) {e : OperatorError}
    (he : ((pass key).run.run handler s).value = .error e) :
    (e.isValidation = false → ∃ before call f, (pass key).run.calls handler s = before ++ [⟨call, .error f⟩] ∧
      (∀ r ∈ before, r.Succeeded) ∧ Blames key before call e ∧
      e.cause? = some (String.intercalate ": " (f.message :: f.causes))) ∧
    (e.isValidation = true → e.cause? = none) ∧ e.Reports key := by
  have h : Accounted key ((pass key).run.calls handler s) ((pass key).run.run handler s).value :=
    (pass_accounted key).run s fun srv hsrv => hown srv ?_
  · rcases h e he with ⟨before, call, f, hcalls, hbefore, hb⟩ | ⟨hv, hcauses, hreports⟩
    · refine ⟨fun _ => ⟨before, call, f, hcalls, hbefore, hb.blames, hb.cause⟩, fun hv => ?_, hb.reports⟩
      rw [hb.blames.isValidation] at hv
      cases hv
    · refine ⟨fun hn => ?_, fun _ => ?_, hreports⟩
      · rw [hv] at hn
        cases hn
      · rw [OperatorError.cause?, hcauses]
        rfl
  · have hcalls : ((pass key).run.calls handler s).head? =
        some ⟨.get .server key, (handler s (.get .server key)).1⟩ := rfl
    rw [hcalls] at hsrv
    simpa using hsrv

/-- In the sample the Deployment is read and replaced, and cannot be read again once all children are written. -/
theorem error_names_failed_call_sample : ∃ before call f,
    (pass sampleServer.key).run.calls MemoryStore.handler (sampleStore.failAfter Kind.deployment.name .get 1) =
      before ++ [⟨call, .error f⟩] ∧ before.length = 7 ∧
    Blames sampleServer.key before call
      (Child.deployment.readFailed sampleServer ⟨"injected get failure for Deployment", []⟩) := by
  have hown : ∀ srv : Server,
      (MemoryStore.handler (sampleStore.failAfter Kind.deployment.name .get 1) (.get .server sampleServer.key)).1 =
        .ok (some srv) → srv.key = sampleServer.key := by
    intro srv hsrv
    cases hsrv
    rfl
  obtain ⟨hcall, _⟩ := error_names_failed_call MemoryStore.handler sampleServer.key
    (sampleStore.failAfter Kind.deployment.name .get 1) hown rfl
  obtain ⟨before, call, f, hcalls, _, hblames, _⟩ := hcall rfl
  refine ⟨before, call, f, hcalls, ?_, hblames⟩
  have hlength : ((pass sampleServer.key).run.calls MemoryStore.handler
      (sampleStore.failAfter Kind.deployment.name .get 1)).length = 8 := by decide
  simpa [hcalls] using hlength

end ServerOperator
