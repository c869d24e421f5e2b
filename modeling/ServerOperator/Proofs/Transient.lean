import ServerOperator.Proofs.Effects
import ServerOperator.Proofs.Endings

/-!
# Passes that give up

A pass that ends with an error that is not about the spec was refused a call. Whatever it wrote before
that, an undisturbed pass would have written too, in the same order and with the same objects; nothing
else is touched, least of all the server.
-/

namespace ServerOperator

open MemoryStore (Alike handler)

/-! ## The write log -/

namespace MemoryStore

/-- Nothing is taken out of the log. -/
theorem run_writes {α : Type} (p : Program α) (s : MemoryStore) : s.writes <+: (p.run handler s).state.writes :=
  ⟨_, (logs_run p s).1.symm⟩

theorem reported_writes (s : MemoryStore) (key : Key) (phase : Phase) (message : String) (r : Readiness) :
    (s.reported key phase message r).writes = s.writes := by
  rcases reported_cases key phase message r (s := s) with e | ⟨latest, _, e⟩ <;> rw [e]
  rfl

/-- What settling children writes, and that it changes nothing else. -/
theorem settleAll_writes (srv : Server) : ∀ (cs : List Child) (s : MemoryStore), ∃ made,
    (cs.foldl (settle srv) s).writes = s.writes ++ made ∧
      (∀ w ∈ made, w.name = srv.name ∧ ∃ c ∈ cs, w.kind = c.kind) ∧
      ∀ k key, ¬ (key = srv.key ∧ ∃ w ∈ made, w.kind = k) →
        (cs.foldl (settle srv) s).object? k key = s.object? k key
  | [], s => ⟨[], (List.append_nil _).symm, nofun, fun _ _ _ => rfl⟩
  | c :: cs, s => by
    obtain ⟨made, hw, hmade, hframe⟩ := settleAll_writes srv cs (s.settle srv c)
    rw [List.foldl_cons]
    have hrest : ∀ w ∈ made, w.name = srv.name ∧ ∃ d ∈ c :: cs, w.kind = d.kind := fun w h => by
      obtain ⟨hn, d, hd, hk⟩ := hmade w h
      exact ⟨hn, d, List.mem_cons_of_mem _ hd, hk⟩
    rcases settle_cases srv s c with e | ⟨op, o, e⟩ <;> rw [e] at hw hframe ⊢
    · exact ⟨made, hw, hrest, hframe⟩
    · refine ⟨⟨op, c.kind, srv.name⟩ :: made, ?_, ?_, fun k key h => ?_⟩
      · rw [hw, written_writes, List.append_assoc]; rfl
      · exact List.forall_mem_cons.mpr ⟨⟨rfl, c, List.mem_cons_self .., rfl⟩, hrest⟩
      · rw [hframe k key (mt (fun ⟨hkey, w, hw, hk⟩ => ⟨hkey, w, List.mem_cons_of_mem _ hw, hk⟩) h)]
        refine object?_written_ne _ _ _ _ _ (Decidable.or_iff_not_not_and_not.mpr fun ⟨hk, hkey⟩ => ?_)
        exact h ⟨Decidable.not_not.mp hkey, _, List.mem_cons_self .., (Decidable.not_not.mp hk).symm⟩

end MemoryStore

/-! ## Giving up -/

/-- A pass that gave up, against one that is refused nothing from the same store: the server and its status
are as before; what was written is a prefix of what the other writes, and the same objects; the rest is as before. -/
structure LeavesPrefix (key : Key) (s t free : MemoryStore) : Prop where
  servers : t.servers = s.servers
  statusPatches : t.statusPatches = s.statusPatches
  writes : ∃ made, t.writes = s.writes ++ made ∧ t.writes <+: free.writes ∧ (∀ w ∈ made, w.name = key.name) ∧
    ∀ k key', t.object? k key' =
      if key' = key ∧ ∃ w ∈ made, w.kind = k then free.object? k key' else s.object? k key'

theorem LeavesPrefix.of_alike {key : Key} {s t free : MemoryStore} (h : Alike t s) (hfree : s.writes <+: free.writes) :
    LeavesPrefix key s t free where
  servers := h.servers
  statusPatches := h.statusPatches
  writes := by
    refine ⟨[], by rw [h.writes, List.append_nil], by rw [h.writes]; exact hfree, nofun, fun k key' => ?_⟩
    rw [h.object?, if_neg fun ⟨_, w, hw, _⟩ => nomatch hw]

theorem LeavesPrefix.of_settling {srv : Server} {s t free : MemoryStore} {done rest : List Child}
    (hc : Child.all = done ++ rest) (ht : Alike t (done.foldl (MemoryStore.settle srv) s))
    (hfree : Alike free (Pass.settled srv s)) : LeavesPrefix srv.key s t free where
  servers := ht.servers.trans (MemoryStore.settleAll_servers ..)
  statusPatches := ht.statusPatches.trans (MemoryStore.settleAll_statusPatches ..)
  writes := by
    obtain ⟨m, hm⟩ : ∃ m, m = done.foldl (MemoryStore.settle srv) s := ⟨_, rfl⟩
    obtain ⟨made, hw, hmade, hframe⟩ := MemoryStore.settleAll_writes srv done s
    obtain ⟨later, hw', hlater, hframe'⟩ := MemoryStore.settleAll_writes srv rest m
    have hall : Child.all.foldl (MemoryStore.settle srv) s = rest.foldl (MemoryStore.settle srv) m := by
      rw [hc, List.foldl_append, ← hm]
    rw [Pass.settled, hall] at hfree
    refine ⟨made, ht.writes.trans hw, ?_, fun w h => (hmade w h).1, fun k key' => ?_⟩
    · rw [ht.writes, hfree.writes, MemoryStore.reported_writes, hw', ← hm]
      exact List.prefix_append _ _
    · rw [ht.object?, ← hm]
      split
      · next h =>
        obtain ⟨_, w, hw, rfl⟩ := h
        obtain ⟨_, c, hcd, hk⟩ := hmade w hw
        -- The children that were still to come are of other kinds.
        have hne : ∀ d ∈ rest, w.kind ≠ d.kind := fun d hd e =>
          (List.nodup_append.mp (hc ▸ (by decide : Child.all.Nodup))).2.2 c hcd d hd
            (Child.kind_injective (hk.symm.trans e))
        have hserver : w.kind ≠ .server := hk ▸ c.kind_ne_server
        rw [hfree.object?, MemoryStore.object?_reported_ne _ _ _ _ (.inl hserver),
          MemoryStore.object?_settleAll_ne srv rest m (.inl hne)]
      · next h => rw [hm]; exact hframe k key' h

/-- A pass over a stored server that ends with an error which is not about its spec leaves a prefix of what
an undisturbed pass does. -/
theorem transient_failure_leaves_prefix {s : MemoryStore} {srv : Server}
    (hsrv : s.object? .server srv.key = some srv) {e : OperatorError}
    (hr : (Pass.inMemory srv.key s).value = .error e) (he : e.isValidation = false) :
    LeavesPrefix srv.key s (Pass.inMemory srv.key s).state (Pass.inMemory srv.key s.clearFailures).state := by
  have hgrow : s.writes <+: (Pass.inMemory srv.key s.clearFailures).state.writes :=
    MemoryStore.run_writes _ s.clearFailures
  rcases pass_ended_of_stored hsrv with ⟨_, hst, _⟩ | ⟨_, u, hu, ht⟩
  · rw [hst]
    exact .of_alike (.refl s) hgrow
  rw [hr] at hu
  cases hu with
  | reported h | unreported h => rw [Server.isValidation_of_fault h] at he; cases he
  | unfilled => exact .of_alike ht hgrow
  | stopped hf hd _ hc =>
    refine .of_settling hc ht ?_
    have hsrv' : s.clearFailures.object? .server srv.key = some srv := hsrv
    have hfree := settled_of_reliable hsrv' (MemoryStore.reliable_clearFailures s) hf hd
    exact hfree.2.trans (Pass.settled_alike srv (MemoryStore.clearFailures_alike s))

/-- In the sample, the Ingress is refused after two children are written. -/
theorem transient_failure_leaves_prefix_sample :
    (Pass.inMemory sampleServer.key (sampleStore.failAfter Kind.ingress.name .create 0)).state.writes.length = 2 ∧
      LeavesPrefix sampleServer.key (sampleStore.failAfter Kind.ingress.name .create 0)
        (Pass.inMemory sampleServer.key (sampleStore.failAfter Kind.ingress.name .create 0)).state
        (Pass.inMemory sampleServer.key (sampleStore.failAfter Kind.ingress.name .create 0).clearFailures).state := by
  have hsrv : (sampleStore.failAfter Kind.ingress.name .create 0).object? .server sampleServer.key =
    some sampleServer := rfl
  have hr : (Pass.inMemory sampleServer.key (sampleStore.failAfter Kind.ingress.name .create 0)).value = .error
    (Child.ingress.callFailed sampleServer "create" ⟨"injected create failure for Ingress", []⟩) := rfl
  exact ⟨by decide, transient_failure_leaves_prefix hsrv hr rfl⟩

end ServerOperator
