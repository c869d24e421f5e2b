import ServerOperator.Proofs.Conflicts

/-!
# Which generation a status names

A pass reads its server twice: first to work from its spec, and once more to write its status. The
generation in the status is that of the second reading, while the phase and the message come of the
first. So they belong together only as long as nobody changes the spec in between.
-/

namespace ServerOperator

theorem Attempt.visits_call {α σ : Type} {handler : Program.Handler σ} {c : Call}
    {error : StoreFailure → OperatorError} {f : c.Answer → Attempt α} {s : σ} :
    (Attempt.call c error >>= f).run.visits handler s = ⟨s, c⟩ ::
      match (handler s c).1 with
      | .ok a => (f a).run.visits handler (handler s c).2
      | .error _ => [] := by
  show (_ :: Program.visits handler _ _) = _
  cases (handler s c).1 <;> rfl

/-- A pass that makes another call after its first has fetched a server. -/
theorem fetched_of_visit {σ : Type} {handler : Program.Handler σ} {key : Key} {s : σ} {v : Visit σ}
    (hv : v ∈ (pass key).run.visits handler s) (hc : v.call.isRead = false) : ∃ fetched,
      (handler s (.get .server key)).1 = .ok (some fetched) ∧ (pass key).run.visits handler s =
        ⟨s, .get .server key⟩ :: (Pass.ofServer key fetched).run.visits handler (handler s (.get .server key)).2 := by
  rw [pass, Attempt.visits_call] at hv ⊢
  cases ha : (handler s (.get .server key)).1 with
  | error f =>
    rw [ha] at hv
    cases List.mem_singleton.mp hv
    cases hc
  | ok fetched =>
    cases fetched with
    | none =>
      rw [ha] at hv
      cases List.mem_singleton.mp hv
      cases hc
    | some fetched => exact ⟨fetched, rfl, rfl⟩

theorem status_names_latest_generation {σ : Type} {handler : Program.Handler σ} {key place : Key} {s : σ}
    {v : Visit σ} {status : ServerStatus} (hv : v ∈ (pass key).run.visits handler s)
    (hc : v.call = .patchStatus place status) : ∃ r latest, [r, v] <:+: (pass key).run.visits handler s ∧
      v.state = r.left handler ∧ r.record handler = ⟨.get .server place, .ok (some latest)⟩ ∧
      status.observedGeneration = (latest : Server).metadata.generation := by
  obtain ⟨r, hr, hstate, h⟩ := grounded_of_write hv (by rw [hc]; rfl)
  rw [hc] at h
  obtain ⟨_, latest, hlast, hg⟩ := h
  exact ⟨r, latest, hr, hstate, Option.some.inj hlast, hg⟩

section
variable {α : Type} {p : Program α} {last : Option CallRecord} {Q : α → Option CallRecord → Prop} {s : Shared}
  {key : Key} {x : Server}

/-- While others leave the server at a place alone, so does a program that writes no server but with its
last call. -/
theorem Shared.server_kept (h : p.Obeys Grounded last Q) (hx : s.store.object? .server key = some x)
    (hquiet : ∀ u ∈ p.visits handler s, ¬ Step.AnyWrites .server key u.state.turn u.state.store) :
    ∀ v ∈ p.visits handler s, v.state.store.object? .server key = some x := by
  induction p generalizing last s with
  | done a => exact List.forall_mem_nil _
  | call c next ih =>
    obtain ⟨_, hnext⟩ := Program.obeys_call.mp h
    refine List.forall_mem_cons.mpr ⟨hx, ?_⟩
    by_cases hc : ∃ place, c.place? = some (.server, place)
    · -- A write of a server is the last call, so that no visit is left.
      have hwrite : c.isRead = false := by
        obtain ⟨_, hplace⟩ := hc
        cases c <;> first | rfl | cases hplace
      have hfinal : CallRecord.IsFinal ⟨c, (handler s c).1⟩ := ⟨hwrite, .inr hc⟩
      rw [(hnext _).visits_of_stuck (not_grounded_of_final hfinal)]
      exact List.forall_mem_nil _
    · -- Neither the others nor the call wrote the server.
      refine ih _ (hnext _) ?_ fun u hu => hquiet u (List.mem_cons_of_mem _ hu)
      have hothers := MemoryStore.unreported_of_not_anyWrites (hquiet ⟨s, c⟩ (List.mem_cons_self ..))
      have hcall : ¬ (Step.call c).Writes s.found .server key := fun ⟨hplace, _⟩ => hc ⟨key, hplace⟩
      have hboth := (Step.unreported_of_not_writes hcall).trans hothers
      rw [hx, Option.map_some] at hboth
      obtain ⟨o, ho, e⟩ := Option.map_eq_some_iff.mp hboth
      exact ho.trans (congrArg some e)
  | count c next ih => exact ih (Program.obeys_count.mp h) hx hquiet

/-- An object that is at the place of no step is not written by others in the whole run. -/
theorem Shared.quiet_of_others {k : Kind} (h : ∀ turn ∈ s.others, ∀ step ∈ turn, step.place? ≠ some (k, key)) :
    ∀ u ∈ p.visits handler s, ¬ Step.AnyWrites k key u.state.turn u.state.store := by
  intro u hu
  have hothers : ∀ turn ∈ u.state.others, ∀ step ∈ turn, step.place? ≠ some (k, key) :=
    Program.visits_invariant (I := fun t : Shared => ∀ turn ∈ t.others, ∀ step ∈ turn, step.place? ≠ some (k, key))
      (fun t c ht turn hturn => ht turn (List.mem_of_mem_tail hturn)) h u hu
  refine Step.not_anyWrites ?_ _
  rw [turn]
  cases hcases : u.state.others with
  | nil => exact List.forall_mem_nil _
  | cons turn rest => exact hothers turn (hcases ▸ List.mem_cons_self ..)

end

/-- While others leave the server alone, a status that its pass writes names the generation that was fetched. -/
theorem status_names_fetched_generation {start : Shared} {key : Key} {v : Visit Shared} {status : ServerStatus}
    (hv : v ∈ (pass key).run.visits Shared.handler start) (hc : v.call = .patchStatus key status)
    (hquiet : ∀ u ∈ (pass key).run.visits Shared.handler start,
      ¬ Step.AnyWrites .server key u.state.turn u.state.store) : ∃ fetched,
      (Shared.handler start (.get .server key)).1 = .ok (some fetched) ∧
      status.observedGeneration = fetched.metadata.generation := by
  obtain ⟨fetched, hf, hvisits⟩ := fetched_of_visit hv (by rw [hc]; rfl)
  obtain ⟨hlive, halike⟩ := MemoryStore.of_get hf
  have hkept : ∀ u ∈ (Pass.ofServer key fetched).run.visits Shared.handler (Shared.handler start (.get .server key)).2,
      u.state.store.object? .server key = some fetched := by
    refine Shared.server_kept (Pass.ofServer_obeys fetched key) ((halike.object? ..).trans hlive) fun u hu => ?_
    exact hquiet u (hvisits ▸ List.mem_cons_of_mem _ hu)
  obtain ⟨r, latest, _, hstate, hread, hg⟩ := status_names_latest_generation hv hc
  have hlatest := Shared.object?_of_read hread
  rw [hvisits] at hv
  rcases List.mem_cons.mp hv with rfl | hv
  · cases hc
  · rw [← hstate, hkept v hv] at hlatest
    cases hlatest
    exact ⟨fetched, hf, hg⟩

def forgetfulServer : Server :=
  { sampleServer with
    metadata := { sampleServer.metadata with generation := some 1 }
    spec := { sampleServer.spec with image := "" }
    status := none }

def forgetfulStart (others : List (List Step)) : Shared := ⟨(∅ : MemoryStore).insertServer forgetfulServer, others⟩

/-- After the pass has fetched the server somebody makes a Deployment for it, which is rolled out, and somebody else
applies another server. -/
def busyStart : Shared := forgetfulStart [[],
  [.call (.create .deployment forgetfulServer.space
      { metadata := { name := forgetfulServer.metadata.name }, spec := some { replicas := some 5 } }),
    .markReady forgetfulServer.key],
  [],
  [.insert { sampleServer with metadata := { sampleServer.metadata with name := some "other", uid := none } }]]

/-- The pass sees the new Deployment, and the generation is that of the server it has fetched. -/
theorem status_names_fetched_generation_sample : ∃ fetched status,
    (Shared.handler busyStart (.get .server forgetfulServer.key)).1 = .ok (some fetched) ∧
      ServerStatus.message status = some "spec.image is required" ∧ status.deploymentReady = true ∧
      status.observedGeneration = fetched.metadata.generation := by
  have hv := List.getElem_mem (l := (pass forgetfulServer.key).run.visits Shared.handler busyStart) (n := 5)
    (by decide)
  -- None of the steps of others is at the place of the server.
  obtain ⟨fetched, hf, hg⟩ := status_names_fetched_generation hv rfl (Shared.quiet_of_others (by decide))
  exact ⟨fetched, _, hf, rfl, rfl, hg⟩

def mendedInPass : Shared :=
  forgetfulStart [[], [], [], [], [.insert { sampleServer with
    metadata := { sampleServer.metadata with generation := some 2 }, status := none }]]

/-- If the spec is mended before the server is read for the status, the pass reports for the second generation
that the image is missing, which was so at the first. -/
theorem status_may_name_another_generation : ∃ fetched,
    (Shared.handler mendedInPass (.get .server forgetfulServer.key)).1 = .ok (some fetched) ∧
    fetched.metadata.generation = some 1 ∧
    ∃ v ∈ (pass forgetfulServer.key).run.visits Shared.handler mendedInPass, ∃ status,
      v.call = .patchStatus forgetfulServer.key status ∧
      status.message = some "spec.image is required" ∧ status.observedGeneration = some 2 := by
  have hv := List.getElem_mem (l := (pass forgetfulServer.key).run.visits Shared.handler mendedInPass) (n := 5)
    (by decide)
  exact ⟨_, rfl, rfl, _, hv, _, rfl, rfl, rfl⟩

end ServerOperator
