import ServerOperator.Proofs.Endings

/-!
# Faults of a spec

A pass ends with a validation error exactly when it read its server and found the spec at fault. Then it
has created and replaced nothing; all it may leave is one status that says so.
-/

namespace ServerOperator

open MemoryStore (Alike handler)

/-! ## The calls of a rejection -/

section
variable (srv : Server)

theorem Child.readiness_keepsObjects (c : Child) : (c.readiness srv).run.Issues fun x => x.keepsObjects = true :=
  Attempt.issues_bind (Attempt.issues_call rfl) fun _ => trivial

theorem Server.readiness_keepsObjects : srv.readiness.run.Issues fun x => x.keepsObjects = true :=
  Attempt.issues_bind (Child.deployment.readiness_keepsObjects srv) fun _ =>
    Attempt.issues_bind (Child.service.readiness_keepsObjects srv) fun _ =>
      Attempt.issues_bind (Child.ingress.readiness_keepsObjects srv) fun _ => trivial

theorem Server.statusCall_keepsObjects (phase : Phase) {c : Call} (h : c.keepsObjects = true) :
    (srv.statusCall phase c).run.Issues fun x => x.keepsObjects = true :=
  ⟨h, fun
    | .ok _ => trivial
    | .error _ => trivial⟩

theorem Server.writeStatus_keepsObjects (phase : Phase) (message : String) (r : Readiness) :
    (srv.writeStatus phase message r).run.Issues fun x => x.keepsObjects = true := by
  refine Attempt.issues_bind (srv.statusCall_keepsObjects phase rfl) fun latest => ?_
  cases latest with
  | none => trivial
  | some latest =>
    dsimp only
    split
    · trivial
    · exact Attempt.issues_bind (srv.statusCall_keepsObjects phase rfl) fun _ => trivial

theorem Pass.reject_keepsObjects {α : Type} (e : OperatorError) :
    (reject srv e : Attempt α).run.Issues fun x => x.keepsObjects = true := by
  refine Program.issues_bind ?_ fun _ => trivial
  refine Program.issues_bind (p := Program.tally _) trivial fun _ => ?_
  refine Program.issues_bind srv.readiness_keepsObjects fun r => ?_
  exact Program.issues_bind (srv.writeStatus_keepsObjects ..) fun _ => trivial

end

/-! ## Rejected servers -/

section
variable {s : MemoryStore} {srv : Server} {e : OperatorError}

theorem calls_of_fault {key : Key} (hp : s.Permits .server .get) (hsrv : s.object? .server key = some srv)
    (hf : srv.fault? = some e) : ∀ x ∈ (pass key).run.calls handler s, x.call.keepsObjects = true := by
  rcases MemoryStore.get_cases s .server key with ⟨hn, _⟩ | ⟨_, t, _, h⟩
  · exact absurd hp hn
  rw [hsrv] at h
  rw [pass, Attempt.calls_call h]
  dsimp only
  rw [Pass.ofServer_of_fault hf]
  exact List.forall_mem_cons.mpr ⟨rfl, (Pass.reject_keepsObjects srv e).calls t⟩

theorem fetch_ok_iff (hsrv : s.object? .server srv.key = some srv) :
    (handler s (.get .server srv.key)).1 = .ok (some srv) ↔ s.Permits .server .get := by
  rcases MemoryStore.get_cases s .server srv.key with ⟨hp, f, h⟩ | ⟨hp, t, _, h⟩ <;> rw [h]
  · exact ⟨nofun, fun h => absurd h hp⟩
  · exact ⟨fun _ => hp, fun _ => congrArg _ hsrv⟩

/-- A pass that ends with a validation error has read its server, and the server is at fault. -/
theorem fault_of_validation_error {key : Key} (hsrv : s.object? .server key = some srv)
    (hr : (Pass.inMemory key s).value = .error e) (he : e.isValidation = true) :
    s.Permits .server .get ∧ srv.fault? = some e := by
  rcases pass_ended_of_stored hsrv with ⟨_, _, e', hr', he'⟩ | ⟨hp, u, hu, _⟩
  · cases hr.symm.trans hr'
    rw [he] at he'
    cases he'
  rw [hr] at hu
  cases hu with
  | reported h | unreported h => exact ⟨hp, h⟩
  | unfilled _ _ hg | stopped _ _ hg =>
    obtain ⟨_, h, h'⟩ := hg.error
    cases h
    rw [he] at h'
    cases h'

end

/-! ## What a rejection leaves -/

/-- The stores differ at most in the status of a server, which says that its spec is at fault, and in the
failures that are left. -/
structure OnlyReports (srv : Server) (e : OperatorError) (s t : MemoryStore) : Prop where
  children : ∀ c : Child, t.table c.kind = s.table c.kind
  writes : t.writes = s.writes
  server : ∃ srv' : Server, t.object? .server srv.key = some srv' ∧ srv'.bare = srv.bare
  effect : Alike t s ∨ Alike t (s.patched srv.key srv
    (ServerStatus.report .failed e.message (s.seen srv.key) srv.metadata.generation))

theorem OnlyReports.of_effect {srv : Server} {e : OperatorError} {s t : MemoryStore}
    (hsrv : s.object? .server srv.key = some srv)
    (h : Alike t s ∨ Alike t (s.patched srv.key srv
      (ServerStatus.report .failed e.message (s.seen srv.key) srv.metadata.generation))) : OnlyReports srv e s t where
  children c := by
    rcases h with h | h <;> obtain ⟨f, rfl⟩ := h.exists_failures <;> cases c <;> rfl
  writes := by
    rcases h with h | h <;> exact h.writes
  server := by
    rcases h with h | h <;> rw [h.object?]
    · exact ⟨srv, hsrv, rfl⟩
    · exact ⟨_, MemoryStore.object?_patched .., rfl⟩
  effect := h

/-- The pass of a stored server ends with a validation error exactly when the server is read and either
validation rejects it or nothing is left to fill in and a quantity is invalid. Then it creates and replaces
nothing, reports at most that, and would end with this error whatever other calls were refused. -/
theorem validation_error_iff_fault {s : MemoryStore} {srv : Server} (hsrv : s.object? .server srv.key = some srv) :
    ((∃ e, (Pass.inMemory srv.key s).value = .error e ∧ e.isValidation = true) ↔
      (handler s (.get .server srv.key)).1 = .ok (some srv) ∧ ((∃ e, srv.validate = .error e) ∨
        srv.fillDefaults.1 = srv ∧
          ∃ q ∈ srv.spec.quantities, Text.isBlank q = false ∧ Quantity.isValid q = false)) ∧
    ∀ e, (Pass.inMemory srv.key s).value = .error e → e.isValidation = true →
      OnlyReports srv e s (Pass.inMemory srv.key s).state ∧
      (∀ x ∈ (pass srv.key).run.calls handler s, x.call.keepsObjects = true) ∧
      ∀ failures, (handler { s with failures } (.get .server srv.key)).1 = .ok (some srv) →
        (Pass.inMemory srv.key { s with failures }).value = .error e := by
  refine ⟨?_, fun e hr he => ?_⟩
  · rw [fetch_ok_iff hsrv, Server.fillDefaults_eq_self_iff, ← ServerSpec.not_quantitiesValid_iff,
      ← Server.exists_fault_iff]
    constructor
    · rintro ⟨e, hr, he⟩
      obtain ⟨hp, hf⟩ := fault_of_validation_error hsrv hr he
      exact ⟨hp, e, hf⟩
    · rintro ⟨hp, e, hf⟩
      exact ⟨e, (rejected_of_fault hsrv hp hf).1, Server.isValidation_of_fault hf⟩
  · obtain ⟨hp, hf⟩ := fault_of_validation_error hsrv hr he
    refine ⟨.of_effect hsrv ?_, calls_of_fault hp hsrv hf, fun failures h => ?_⟩
    · refine (rejected_of_fault hsrv hp hf).2.elim (fun h => ?_) .inl
      rcases MemoryStore.reported_cases srv.key .failed e.message (s.seen srv.key) (s := s) with he | ⟨latest, hl, he⟩
      · rw [he] at h; exact .inl h
      · cases hl.symm.trans hsrv
        rw [he] at h; exact .inr h
    · have hsrv' : ({ s with failures } : MemoryStore).object? .server srv.key = some srv := hsrv
      exact (rejected_of_fault hsrv' ((fetch_ok_iff hsrv').mp h) hf).1

def faultyServer : Server :=
  { sampleServer with spec := { sampleServer.spec with
      resources := some { limits := some { memory := some "lots" } } } }

def faultyStore : MemoryStore :=
  (sampleStore.put .server sampleServer.key faultyServer).failAfter Kind.deployment.name .get 0

theorem validation_error_iff_fault_sample :
    (Pass.inMemory faultyServer.key faultyStore).state.statusPatches.length = 1 ∧
    ∃ e, (Pass.inMemory faultyServer.key faultyStore).value = .error e ∧
      OnlyReports faultyServer e faultyStore (Pass.inMemory faultyServer.key faultyStore).state := by
  have hsrv : faultyStore.object? .server faultyServer.key = some faultyServer := rfl
  have h := validation_error_iff_fault hsrv
  obtain ⟨e, hr, he⟩ := h.1.mpr ⟨rfl, .inr ⟨rfl, "lots", by decide, by decide, by decide⟩⟩
  exact ⟨by decide, e, hr, (h.2 e hr he).1⟩

end ServerOperator
