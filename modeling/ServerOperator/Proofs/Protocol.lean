import ServerOperator.Pass
import ServerOperator.Proofs.Endings

/-!
# What a write follows on

Whatever answers it gets, a pass makes no write but right after the read it is based on: it creates
where it just found nothing, replaces the version it just read, and reports the generation it just saw.
A write that fails is the last call of the pass. Both are read off the program by one calculus
(`Obeys`), in which the last call and its answer stand in for the state.
-/

namespace ServerOperator

structure Visit (σ : Type) where
  state : σ
  call : Call

namespace Visit

variable {σ : Type} (handler : Program.Handler σ) (v : Visit σ)

def record : CallRecord := ⟨v.call, (handler v.state v.call).1⟩

def left : σ := (handler v.state v.call).2

def Succeeds : Prop := (handler v.state v.call).1.isOk = true

instance : Decidable (v.Succeeds handler) := inferInstanceAs (Decidable (_ = _))

end Visit

namespace Program

variable {α β σ : Type}

def visits (handler : Handler σ) : Program α → σ → List (Visit σ)
  | done _, _ => []
  | call c next, s => ⟨s, c⟩ :: (next (handler s c).1).visits handler (handler s c).2
  | count _ next, s => next.visits handler s

/-- Whatever the answers are: each call stands in relation `R` to the one before it, and the value in
relation `Q` to the last. -/
def Obeys (R : Option CallRecord → Call → Prop) :
    Program α → Option CallRecord → (α → Option CallRecord → Prop) → Prop
  | done a, last, Q => Q a last
  | call c next, last, Q => R last c ∧ ∀ r, (next r).Obeys R (some ⟨c, r⟩) Q
  | count _ next, last, Q => next.Obeys R last Q

section
variable {R : Option CallRecord → Call → Prop} {last : Option CallRecord}

theorem obeys_done {a : α} {Q : α → Option CallRecord → Prop} : (done a).Obeys R last Q ↔ Q a last := Iff.rfl

theorem obeys_call {c : Call} {next : Except StoreFailure c.Answer → Program α} {Q : α → Option CallRecord → Prop} :
    (call c next).Obeys R last Q ↔ R last c ∧ ∀ r, (next r).Obeys R (some ⟨c, r⟩) Q := Iff.rfl

theorem obeys_count {c : Counter} {p : Program α} {Q : α → Option CallRecord → Prop} :
    (count c p).Obeys R last Q ↔ p.Obeys R last Q := Iff.rfl

theorem Obeys.imp {p : Program α} {Q Q' : α → Option CallRecord → Prop} (h : p.Obeys R last Q)
    (hQ : ∀ a last, Q a last → Q' a last) : p.Obeys R last Q' := by
  induction p generalizing last with
  | done a => exact hQ a last h
  | call c next ih => exact ⟨h.1, fun r => ih r (h.2 r)⟩
  | count c next ih => exact ih h

theorem obeys_bind {p : Program α} {f : α → Program β} {Q : β → Option CallRecord → Prop} :
    (p >>= f).Obeys R last Q ↔ p.Obeys R last fun a last => (f a).Obeys R last Q := by
  show (p.bind f).Obeys R last Q ↔ _
  induction p generalizing last with
  | done a => exact Iff.rfl
  | call c next ih => exact and_congr_right fun _ => forall_congr' fun r => ih r
  | count c next ih => exact ih

end

/-! ## From programs to runs -/

section
variable {R : Option CallRecord → Call → Prop} {last : Option CallRecord} {p : Program α}
  {Q : α → Option CallRecord → Prop} {handler : Handler σ} {s : σ}

theorem visits_head (p : Program α) (s : σ) : ∀ v ∈ (p.visits handler s).head?, v.state = s := by
  induction p with
  | done a => intro v hv; cases hv
  | call c next ih => intro v hv; cases hv; rfl
  | count c next ih => exact ih

/-- What every call keeps holds at every visit. -/
theorem visits_invariant {I : σ → Prop} (hI : ∀ s c, I s → I (handler s c).2) (hs : I s) :
    ∀ v ∈ p.visits handler s, I v.state := by
  induction p generalizing s with
  | done a => exact List.forall_mem_nil _
  | call c next ih => exact List.forall_mem_cons.mpr ⟨hs, ih _ (hI s c hs)⟩
  | count c next ih => exact ih hs

/-- A visit is the first, or it obeys `R` after the one before it, and starts where that ended. -/
theorem Obeys.before (h : p.Obeys R last Q) {v : Visit σ} (hv : v ∈ p.visits handler s) :
    ((p.visits handler s).head? = some v ∧ R last v.call) ∨ ∃ u, [u, v] <:+: p.visits handler s ∧
      v.state = u.left handler ∧ R (some (u.record handler)) v.call := by
  induction p generalizing last s with
  | done a => cases hv
  | call c next ih =>
    rcases List.mem_cons.mp hv with rfl | hv
    · exact .inl ⟨rfl, h.1⟩
    -- The first of the visits that follow comes after this one; for the others the neighbour is among them.
    rcases ih _ (h.2 (handler s c).1) hv with ⟨hhead, hR⟩ | ⟨u, hu, hrest⟩
    · obtain ⟨rest, hrest⟩ := List.head?_eq_some_iff.mp hhead
      have hpair : [⟨s, c⟩, v] <:+: (call c next).visits handler s := ⟨[], rest, by rw [visits, hrest]; rfl⟩
      exact .inr ⟨⟨s, c⟩, hpair, visits_head _ _ v hhead, hR⟩
    · exact .inr ⟨u, List.infix_cons hu, hrest⟩
  | count c next ih => exact ih h hv

theorem Obeys.of_stuck (h : p.Obeys R last Q) (hR : ∀ c, ¬ R last c) : Q (p.run handler s).value last := by
  induction p with
  | done a => exact h
  | call c next ih => exact absurd h.1 (hR c)
  | count c next ih => exact ih h

theorem Obeys.visits_of_stuck (h : p.Obeys R last Q) (hR : ∀ c, ¬ R last c) : p.visits handler s = [] := by
  induction p with
  | done a => rfl
  | call c next ih => exact absurd h.1 (hR c)
  | count c next ih => exact ih h

/-- A visit after which `R` allows no call is the last. -/
theorem Obeys.of_last (h : p.Obeys R last Q) {v : Visit σ} (hv : v ∈ p.visits handler s)
    (hR : ∀ c, ¬ R (some (v.record handler)) c) : Q (p.run handler s).value (some (v.record handler)) := by
  induction p generalizing last s with
  | done a => cases hv
  | call c next ih =>
    rcases List.mem_cons.mp hv with rfl | hv
    · exact (h.2 _).of_stuck hR
    · exact ih _ (h.2 _) hv
  | count c next ih => exact ih h hv

end

-- From here on the lemmas are used; unfolding would run the program at hand.
attribute [irreducible] Obeys

end Program

/-! ## Attempts -/

namespace Attempt

variable {α β : Type} {R : Option CallRecord → Call → Prop} {last : Option CallRecord}

theorem obeys_bind {x : Attempt α} {f : α → Attempt β} {Q : Except OperatorError β → Option CallRecord → Prop} :
    (x >>= f).run.Obeys R last Q ↔ x.run.Obeys R last fun
      | .ok a, last => (f a).run.Obeys R last Q
      | .error e, last => Q (.error e) last := by
  rw [ExceptT.run_bind, Program.obeys_bind]
  constructor
  · intro h
    refine h.imp fun r last hr => ?_
    cases r with
    | ok a => exact hr
    | error e => exact Program.obeys_done.mp hr
  · intro h
    refine h.imp fun r last hr => ?_
    cases r with
    | ok a => exact hr
    | error e => exact Program.obeys_done.mpr hr

theorem obeys_call {c : Call} {error : StoreFailure → OperatorError}
    {Q : Except OperatorError c.Answer → Option CallRecord → Prop} :
    (call c error).run.Obeys R last Q ↔ R last c ∧ ∀ r, Q (r.mapError error) (some ⟨c, r⟩) := by
  rw [call, ExceptT.run_mk, Program.obeys_call]
  refine and_congr_right fun _ => forall_congr' fun r => ?_
  cases r <;> exact Program.obeys_done

theorem obeys_pure {a : α} {Q : Except OperatorError α → Option CallRecord → Prop} :
    (pure a : Attempt α).run.Obeys R last Q ↔ Q (.ok a) last := Program.obeys_done

theorem obeys_throw {e : OperatorError} {Q : Except OperatorError α → Option CallRecord → Prop} :
    (throw e : Attempt α).run.Obeys R last Q ↔ Q (.error e) last := Program.obeys_done

theorem obeys_tally {c : Counter} {Q : Except OperatorError Unit → Option CallRecord → Prop} :
    (tally c).run.Obeys R last Q ↔ Q (.ok ()) last := by
  rw [tally, ExceptT.run_mk, Program.obeys_count, Program.obeys_done]

theorem obeys_ofExcept {r : Except OperatorError α} {Q : Except OperatorError α → Option CallRecord → Prop} :
    (ofExcept r).run.Obeys R last Q ↔ Q r last := Program.obeys_done

theorem obeys_lift {p : Program α} {Q : Except OperatorError α → Option CallRecord → Prop} :
    (monadLift p : Attempt α).run.Obeys R last Q ↔ p.Obeys R last fun a last => Q (.ok a) last := by
  show (p >>= fun a => Program.done (Except.ok a : Except OperatorError α)).Obeys R last Q ↔ _
  simp only [Program.obeys_bind, Program.obeys_done]

end Attempt

/-! ## The pass -/

def CallRecord.IsFailedWrite (r : CallRecord) : Prop := r.call.isRead = false ∧ r.answer.isOk = false

/-- A write after which a pass makes no other call: one that did not succeed, or one of the server. -/
def CallRecord.IsFinal (r : CallRecord) : Prop :=
  r.call.isRead = false ∧ (r.answer.isOk = false ∨ ∃ key, r.call.place? = some (.server, key))

def Undisturbed (last : Option CallRecord) : Prop := ∀ r ∈ last, ¬ r.IsFinal

inductive Revision : (k : Kind) → (live revised : k.Object) → Prop where
  | defaults (srv : Server) : Revision .server srv srv.fillDefaults.1
  | merged (c : Child) {srv : Server} {w : c.kind.Object} (hw : c.wanted srv = .ok w) (live : c.kind.Object) :
      Revision c.kind live (c.merge live w)

theorem Revision.version {k : Kind} {live revised : k.Object} (h : Revision k live revised) :
    (k.metadata revised).resourceVersion = (k.metadata live).resourceVersion := by
  cases h with
  | defaults srv => rfl
  | merged c => cases c <;> rfl

/-- The call follows on no final write, and a write follows on the read that it is based on. -/
def Grounded (last : Option CallRecord) (c : Call) : Prop :=
  Undisturbed last ∧
    match c with
    | .get .. => True
    | .create k space o => ∃ name, (k.metadata o).name = some name ∧ last = some ⟨.get k ⟨space, name⟩, .ok none⟩
    | .replace k key o => ∃ live, last = some ⟨.get k key, .ok (some live)⟩ ∧ Revision k live o
    | .patchStatus key status => ∃ latest : Server, last = some ⟨.get .server key, .ok (some latest)⟩ ∧
        status.observedGeneration = latest.metadata.generation

theorem undisturbed_of_read {r : CallRecord} (h : r.call.isRead = true) : Undisturbed (some r) := by
  intro x hx ⟨hw, _⟩
  cases hx
  rw [h] at hw
  cases hw

theorem undisturbed_of_ok {c : Call} {a : c.Answer} (hc : ∀ key, c.place? ≠ some (.server, key)) :
    Undisturbed (some ⟨c, .ok a⟩) := by
  intro x hx ⟨_, hfinal⟩
  cases hx
  rcases hfinal with hf | ⟨key, hkey⟩
  · cases hf
  · exact hc key hkey

theorem not_grounded_of_final {r : CallRecord} (h : r.IsFinal) (c : Call) : ¬ Grounded (some r) c :=
  fun hg => hg.1 r rfl h

def Stopped {α : Type} (r : Except OperatorError α) (last : Option CallRecord) : Prop :=
  (∃ x ∈ last, x.IsFailedWrite) → ∃ e, r = .error e

section
variable {α : Type} {last : Option CallRecord}

theorem stopped_of_error (e : OperatorError) : Stopped (.error e : Except OperatorError α) last :=
  fun _ => ⟨e, rfl⟩

theorem stopped_of_undisturbed {r : Except OperatorError α} (h : Undisturbed last) : Stopped r last :=
  fun ⟨x, hx, hw, hf⟩ => absurd ⟨hw, .inl hf⟩ (h x hx)

theorem stopped_of_ok {c : Call} {a : c.Answer} {r : Except OperatorError α} : Stopped r (some ⟨c, .ok a⟩) := by
  intro ⟨x, hx, _, hf⟩
  cases hx
  cases hf

/-- Where no error came up, no write failed, whatever is returned. -/
theorem Stopped.of_ok {β : Type} {a : α} {r : Except OperatorError β} (h : Stopped (.ok a) last) : Stopped r last := by
  intro hf
  obtain ⟨e, he⟩ := h hf
  cases he

end

def Heeded {α : Type} : Except OperatorError α → Option CallRecord → Prop
  | .ok _, last => Undisturbed last
  | .error e, last => e.isValidation = true → Undisturbed last

section
variable (srv : Server) {last : Option CallRecord}

theorem Child.apply_obeys (c : Child) (h : Undisturbed last) :
    (c.apply srv).run.Obeys Grounded last Heeded := by
  rw [apply, Attempt.obeys_bind, Attempt.obeys_ofExcept]
  cases hw : c.wanted srv with
  | error e => exact fun _ => h
  | ok w =>
    dsimp only
    rw [Attempt.obeys_bind, Attempt.obeys_call]
    refine ⟨⟨h, trivial⟩, fun r => ?_⟩
    have hread : Undisturbed (some ⟨.get c.kind srv.key, r⟩) := undisturbed_of_read rfl
    -- An error of a child's call is not about the spec.
    have hheeded (op : String) (f : StoreFailure) (last : Option CallRecord) :
        Heeded (.error (c.callFailed srv op f) : Except OperatorError Unit) last := by
      intro he
      rw [c.isValidation_callFailed] at he
      cases he
    cases r with
    | error f => exact hheeded "get" f _
    | ok live =>
      cases live with
      | none =>
        show (c.create srv w).run.Obeys _ _ _
        rw [create, Attempt.obeys_bind, Attempt.obeys_call]
        refine ⟨⟨hread, srv.name, c.metadata_of_wanted hw, rfl⟩, fun r => ?_⟩
        cases r with
        | ok a =>
          refine Attempt.obeys_tally.mpr (undisturbed_of_ok fun key hkey => ?_)
          obtain ⟨name, _, e⟩ := Option.map_eq_some_iff.mp hkey
          exact c.kind_ne_server (congrArg Prod.fst e)
        | error f => exact hheeded "create" f _
      | some live =>
        by_cases e : c.merge live w = live
        · simp only [Except.mapError_ok, e, if_true]
          exact Attempt.obeys_pure.mpr hread
        · simp only [Except.mapError_ok, e, if_false]
          rw [update, Attempt.obeys_bind, Attempt.obeys_call]
          refine ⟨⟨hread, live, rfl, .merged c hw live⟩, fun r => ?_⟩
          cases r with
          | ok a =>
            refine Attempt.obeys_tally.mpr (undisturbed_of_ok fun key hkey => ?_)
            exact c.kind_ne_server (congrArg Prod.fst (Option.some.inj hkey))
          | error f => exact hheeded "update" f _

theorem forM_apply_obeys : ∀ (cs : List Child) {last : Option CallRecord}, Undisturbed last →
    (cs.forM (·.apply srv)).run.Obeys Grounded last Heeded
  | [], _, h => Attempt.obeys_pure.mpr h
  | c :: cs, _, h => by
    show (c.apply srv >>= fun _ => cs.forM (·.apply srv)).run.Obeys _ _ _
    rw [Attempt.obeys_bind]
    refine (c.apply_obeys srv h).imp fun r last hr => ?_
    cases r with
    | ok a => exact forM_apply_obeys cs hr
    | error e => exact hr

theorem Child.readiness_obeys (c : Child) (h : Undisturbed last) :
    (c.readiness srv).run.Obeys Grounded last fun _ last => Undisturbed last := by
  rw [readiness, Attempt.obeys_bind, Attempt.obeys_call]
  refine ⟨⟨h, trivial⟩, fun r => ?_⟩
  have hread : Undisturbed (some ⟨.get c.kind srv.key, r⟩) := undisturbed_of_read rfl
  cases r with
  | error f => exact hread
  | ok live => exact Attempt.obeys_pure.mpr hread

theorem Server.readiness_obeys (h : Undisturbed last) :
    srv.readiness.run.Obeys Grounded last fun _ last => Undisturbed last := by
  rw [Server.readiness, Attempt.obeys_bind]
  refine (Child.deployment.readiness_obeys srv h).imp fun r last h => ?_
  cases r with
  | error e => exact h
  | ok a =>
    dsimp only
    rw [Attempt.obeys_bind]
    refine (Child.service.readiness_obeys srv h).imp fun r last h => ?_
    cases r with
    | error e => exact h
    | ok b =>
      dsimp only
      rw [Attempt.obeys_bind]
      refine (Child.ingress.readiness_obeys srv h).imp fun r last h => ?_
      cases r with
      | error e => exact h
      | ok c => exact Attempt.obeys_pure.mpr h

theorem Server.statusCall_obeys {phase : Phase} {c : Call}
    {Q : Except OperatorError c.Answer → Option CallRecord → Prop} :
    (srv.statusCall phase c).run.Obeys Grounded last Q ↔
      Grounded last c ∧ ∀ r, Q (r.mapError (srv.statusFailed phase)) (some ⟨c, r⟩) := by
  rw [statusCall, ExceptT.run_mk, Program.obeys_call]
  refine and_congr_right fun _ => forall_congr' fun r => ?_
  cases r with
  | ok a => exact Program.obeys_done
  | error f => exact Program.obeys_count.trans Program.obeys_done

theorem Server.writeStatus_obeys (phase : Phase) (message : String) (r : Readiness) (h : Undisturbed last) :
    (srv.writeStatus phase message r).run.Obeys Grounded last Stopped := by
  rw [Server.writeStatus, Attempt.obeys_bind, Server.statusCall_obeys]
  refine ⟨⟨h, trivial⟩, fun x => ?_⟩
  have hread : Undisturbed (some ⟨.get .server srv.key, x⟩) := undisturbed_of_read rfl
  cases x with
  | error f => exact stopped_of_error _
  | ok latest =>
    cases latest with
    | none => exact Attempt.obeys_pure.mpr (stopped_of_undisturbed hread)
    | some latest =>
      simp only [Except.mapError_ok]
      split
      · exact Attempt.obeys_tally.mpr (stopped_of_undisturbed hread)
      · rw [Attempt.obeys_bind, Server.statusCall_obeys]
        refine ⟨⟨hread, latest, rfl, rfl⟩, fun x => ?_⟩
        cases x with
        | ok a => exact Attempt.obeys_tally.mpr stopped_of_ok
        | error f => exact stopped_of_error _

namespace Pass

theorem reject_obeys {α : Type} (e : OperatorError) (h : Undisturbed last) :
    (reject srv e : Attempt α).run.Obeys Grounded last Stopped := by
  rw [reject, ExceptT.run_mk, Program.obeys_bind, report, Program.obeys_bind, Program.tally, Program.obeys_count,
    Program.obeys_done, Program.obeys_bind]
  refine (srv.readiness_obeys h).imp fun r last h => ?_
  rw [Program.obeys_bind]
  refine (srv.writeStatus_obeys .failed e.message (r.toOption.getD {}) h).imp fun _ last _ => ?_
  exact Program.obeys_done.mpr (Program.obeys_done.mpr (stopped_of_error e))

theorem converge_obeys (h : Undisturbed last) : (converge srv).run.Obeys Grounded last Stopped := by
  rw [converge, Attempt.obeys_bind, Attempt.obeys_lift]
  refine (forM_apply_obeys srv Child.all h).imp fun r last h => ?_
  cases r with
  | error e =>
    dsimp only
    split
    · next he => exact reject_obeys srv e (h he)
    · exact Attempt.obeys_throw.mpr (stopped_of_error e)
  | ok a =>
    dsimp only
    rw [Attempt.obeys_bind]
    refine (srv.readiness_obeys h).imp fun r last h => ?_
    cases r with
    | error e => exact stopped_of_error e
    | ok r =>
      dsimp only
      rw [Attempt.obeys_bind]
      refine (srv.writeStatus_obeys r.phase r.message r h).imp fun v last h => ?_
      cases v with
      | error e => exact stopped_of_error e
      | ok v => exact Attempt.obeys_pure.mpr h.of_ok

theorem ofServer_obeys (key : Key) : (ofServer key srv).run.Obeys Grounded
    (some ⟨.get .server key, .ok (some srv)⟩) Stopped := by
  have hread : Undisturbed (some ⟨.get .server key, .ok (some srv)⟩) := undisturbed_of_read rfl
  cases hv : srv.validate with
  | error e =>
    rw [ofServer_of_fault (Server.fault?_eq_some_iff.mpr (.inl hv))]
    exact reject_obeys srv e hread
  | ok u =>
    cases hd : srv.fillDefaults.2 with
    | false =>
      rw [ofServer_of_complete hv hd]
      exact converge_obeys srv hread
    | true =>
      rw [ofServer_of_open hv hd, Attempt.obeys_bind, Attempt.obeys_call]
      refine ⟨⟨hread, srv, rfl, .defaults srv⟩, fun r => ?_⟩
      cases r with
      | error f => exact stopped_of_error _
      | ok a => exact Attempt.obeys_pure.mpr stopped_of_ok

end Pass

end

/-- Every write of a pass follows on the read that it is based on, and a failed one ends it with an error. -/
theorem pass_obeys (key : Key) : (pass key).run.Obeys Grounded none Stopped := by
  rw [pass, Attempt.obeys_bind, Attempt.obeys_call]
  have hfirst : Undisturbed none := by
    intro r hr
    cases hr
  refine ⟨⟨hfirst, trivial⟩, fun r => ?_⟩
  cases r with
  | error f => exact stopped_of_error _
  | ok fetched =>
    cases fetched with
    | none => exact Attempt.obeys_pure.mpr (stopped_of_undisturbed (undisturbed_of_read rfl))
    | some srv => exact Pass.ofServer_obeys srv key

section
variable {σ : Type} {handler : Program.Handler σ} {key : Key} {s : σ} {v : Visit σ}

/-- A write of a pass comes right after the read that it is based on. -/
theorem grounded_of_write (hv : v ∈ (pass key).run.visits handler s) (hw : v.call.isRead = false) :
    ∃ r, [r, v] <:+: (pass key).run.visits handler s ∧ v.state = r.left handler ∧
      Grounded (some (r.record handler)) v.call := by
  rcases (pass_obeys key).before hv with ⟨_, _, h⟩ | h
  · cases hc : v.call <;> rw [hc] at h hw
    · cases hw
    · obtain ⟨_, _, hlast⟩ := h
      cases hlast
    · obtain ⟨_, hlast, _⟩ := h
      cases hlast
    · obtain ⟨_, hlast, _⟩ := h
      cases hlast
  · exact h

theorem error_of_failed_write (hv : v ∈ (pass key).run.visits handler s) (hw : v.call.isRead = false)
    (hf : ¬ v.Succeeds handler) : ∃ e, ((pass key).run.run handler s).value = .error e := by
  have hfailed : (v.record handler).IsFailedWrite := ⟨hw, Bool.eq_false_iff.mpr hf⟩
  exact (pass_obeys key).of_last hv (not_grounded_of_final ⟨hw, .inl hfailed.2⟩) ⟨_, rfl, hfailed⟩

end

end ServerOperator
