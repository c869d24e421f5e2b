import ServerOperator.Proofs.Endings

/-!
# What a status says

A pass that is done leaves its server with a status that is a function of the objects stored for it and
of its generation: each flag, the phase and the message say what is so, and nothing is carried over from
the status before.
-/

namespace ServerOperator

theorem Deployment.isReady_iff (d : Deployment) : d.isReady = true ↔
    ∃ n, 0 < n ∧ d.spec.bind (·.replicas) = some n ∧ d.status.bind (·.readyReplicas) = some n := by
  unfold isReady
  cases d.spec.bind (·.replicas) with
  | none => simp
  | some wanted =>
    cases d.status.bind (·.readyReplicas) with
    | none => simp
    | some ready =>
      simp only [Bool.and_eq_true, decide_eq_true_eq, beq_iff_eq, Option.some.injEq]
      constructor
      · intro ⟨h, e⟩
        exact ⟨wanted, h, rfl, e⟩
      · rintro ⟨n, h, rfl, rfl⟩
        exact ⟨h, rfl⟩

namespace Readiness

theorem phase_eq (r : Readiness) : r.phase = if r.deployment && r.service && r.ingress then .ready else .pending := by
  obtain ⟨a, b, d⟩ := r
  cases a <;> cases b <;> cases d <;> rfl

/-- The message has the name of a child in it exactly if that child is waited for. -/
theorem names_message (r : Readiness) (c : Child) : c.resource.toList <:+: r.message.toList ↔ r.get c = false := by
  obtain ⟨a, b, d⟩ := r
  cases a <;> cases b <;> cases d <;> cases c <;> decide +kernel

end Readiness

def ServerStatus.flags (status : ServerStatus) : Readiness where
  deployment := status.deploymentReady
  service := status.serviceReady
  ingress := status.ingressReady

structure Truthful (t : MemoryStore) (server : Server) (status : ServerStatus) : Prop where
  deployment : status.deploymentReady = true ↔ ∃ (d : Deployment) (n : Int32),
    t.object? .deployment server.key = some d ∧ 0 < n ∧
      d.spec.bind (·.replicas) = some n ∧ d.status.bind (·.readyReplicas) = some n
  service : status.serviceReady = true ↔ ∃ o, t.object? .service server.key = some o
  ingress : status.ingressReady = true ↔ ∃ o, t.object? .ingress server.key = some o
  phase : status.phase = some (if status.deploymentReady && status.serviceReady && status.ingressReady
    then .ready else .pending)
  generation : status.observedGeneration = server.metadata.generation
  message : ∃ text, status.message = some text ∧
    ∀ c : Child, c.resource.toList <:+: text.toList ↔ status.flags.get c = false

def MemoryStore.truth (t : MemoryStore) (server : Server) : ServerStatus :=
  .report (t.live server.key).phase (t.live server.key).message (t.live server.key) server.metadata.generation

theorem MemoryStore.truth_congr {t t' : MemoryStore} {a b : Server} (hb : a.bare = b.bare)
    (hlive : t.live b.key = t'.live b.key) : t.truth a = t'.truth b := by
  have hgeneration : a.metadata.generation = b.metadata.generation := congrArg (·.metadata.generation) hb
  rw [truth, truth, Server.key_of_bare hb, hlive, hgeneration]

theorem truthful_truth (t : MemoryStore) (server : Server) : Truthful t server (t.truth server) where
  deployment := by
    show Option.any Deployment.isReady (t.object? .deployment server.key) = true ↔ _
    rw [Option.any_eq_true]
    simp only [Deployment.isReady_iff, exists_and_left]
  service := Option.isSome_iff_exists
  ingress := Option.isSome_iff_exists
  phase := congrArg some (Readiness.phase_eq _)
  generation := rfl
  message := ⟨_, rfl, (t.live server.key).names_message⟩

/-! ## After a pass -/

section
variable {s : MemoryStore} {srv : Server} (hsrv : s.object? .server srv.key = some srv)
  (hr : (Pass.inMemory srv.key s).value = .ok .done)
include hsrv hr

theorem status_of_done : ∃ latest : Server, (Pass.inMemory srv.key s).state.object? .server srv.key = some latest ∧
    latest.bare = srv.bare ∧ latest.status = some ((Pass.inMemory srv.key s).state.truth latest) := by
  obtain ⟨_, _, ht⟩ := settled_of_done hsrv hr
  obtain ⟨latest, hl, hb⟩ := Pass.bare_settled srv s hsrv
  refine ⟨latest, (ht.object? ..).trans hl, hb, ?_⟩
  rw [MemoryStore.truth, ht.live, Server.key_of_bare hb]
  exact Pass.status_settled srv s hl

/-- What is live after a pass comes of what was live before and what the server asks for. -/
theorem live_of_done {s' : MemoryStore} {srv' : Server} (hsrv' : s'.object? .server srv'.key = some srv')
    (hr' : (Pass.inMemory srv'.key s').value = .ok .done) (hb : srv'.bare = srv.bare)
    (hc : ∀ c : Child, s'.object? c.kind srv.key = s.object? c.kind srv.key) :
    (Pass.inMemory srv'.key s').state.live srv.key = (Pass.inMemory srv.key s).state.live srv.key := by
  obtain ⟨hf, hd, ht⟩ := settled_of_done hsrv hr
  obtain ⟨_, _, ht'⟩ := settled_of_done hsrv' hr'
  have hkey : srv'.key = srv.key := Server.key_of_bare hb
  -- A child is as ready as it is fitted, and both passes fit the same to the same.
  have hready (c : Child) : c.isReady ((Pass.settled srv' s').object? c.kind srv.key) =
      c.isReady ((Pass.settled srv s).object? c.kind srv.key) := by
    obtain ⟨w, hw⟩ := Pass.wanted_of_sound hf hd c
    have hw' : c.wanted srv' = .ok w := (Server.wanted_of_bare hb c).trans hw
    have h' := Pass.isReady_settled srv' s' hw'
    rw [hkey, hc, show srv'.space = srv.space from congrArg Key.space hkey] at h'
    exact h'.trans (Pass.isReady_settled srv s hw).symm
  rw [ht.live, ht'.live]
  simp only [MemoryStore.live, hready .deployment, hready .service, hready .ingress]

end

def MemoryStore.reset (s : MemoryStore) (server : Server) (old : Option ServerStatus)
    (failures : Table (String × Operation) Nat) : MemoryStore :=
  { s.put .server server.key { server with status := old } with failures }

/-- A pass that is done leaves a status that says what is so, and that a pass would leave as well that found
any other status, and is done whatever failures were set. -/
theorem done_status_is_truthful {s : MemoryStore} {srv : Server} (hsrv : s.object? .server srv.key = some srv)
    (hr : (Pass.inMemory srv.key s).value = .ok .done) : ∃ (latest : Server) (status : ServerStatus),
      (Pass.inMemory srv.key s).state.object? .server srv.key = some latest ∧ latest.status = some status ∧
      Truthful (Pass.inMemory srv.key s).state latest status ∧ status = (Pass.inMemory srv.key s).state.truth latest ∧
      ∀ old failures, (Pass.inMemory srv.key (s.reset srv old failures)).value = .ok .done →
        ∃ latest' : Server, latest'.status = some status ∧
          (Pass.inMemory srv.key (s.reset srv old failures)).state.object? .server srv.key = some latest' := by
  obtain ⟨latest, hl, hb, hstatus⟩ := status_of_done hsrv hr
  refine ⟨latest, _, hl, hstatus, truthful_truth _ latest, rfl, fun old failures hr' => ?_⟩
  have hc (c : Child) : (s.reset srv old failures).object? c.kind srv.key = s.object? c.kind srv.key :=
    MemoryStore.object?_put_ne s (k := .server) _ (.inl c.kind_ne_server)
  -- From here on only what the second pass finds matters, not how it came about.
  obtain ⟨srv', hfound, hsame⟩ : ∃ srv' : Server, (s.reset srv old failures).object? .server srv.key = some srv' ∧
      srv'.bare = srv.bare := ⟨_, (MemoryStore.object?_put s .server srv.key srv.key _).trans (if_pos rfl), rfl⟩
  have hkey : srv'.key = srv.key := Server.key_of_bare hsame
  rw [← hkey] at hfound hr'
  obtain ⟨latest', hl', hb', hstatus'⟩ := status_of_done hfound hr'
  have hlive := live_of_done hsrv hr hfound hr' hsame hc
  rw [hkey] at hl' hstatus' hlive
  have htruth : (Pass.inMemory srv.key (s.reset srv old failures)).state.truth latest' =
      (Pass.inMemory srv.key s).state.truth latest :=
    MemoryStore.truth_congr ((hb'.trans hsame).trans hb.symm) (by rw [Server.key_of_bare hb, hlive])
  exact ⟨latest', hstatus'.trans (congrArg some htruth), hl'⟩

/-- In the sample the Deployment has the wanted number of replicas ready once the pass has scaled it down. -/
theorem done_status_is_truthful_sample : ∃ (latest : Server) (status : ServerStatus),
    latest.status = some status ∧ status.phase = some .ready ∧
      Truthful (Pass.inMemory sampleServer.key sampleStore).state latest status := by
  have hsrv : sampleStore.object? .server sampleServer.key = some sampleServer := rfl
  obtain ⟨latest, status, hl, hs, h, _⟩ := done_status_is_truthful hsrv rfl
  have hphase : ((Pass.inMemory sampleServer.key sampleStore).state.object? .server sampleServer.key).bind
      (fun o => (o : Server).status.bind (·.phase)) = some .ready := by decide
  rw [hl, Option.bind_some, hs] at hphase
  exact ⟨latest, status, hs, hphase, h⟩

end ServerOperator
