import ServerOperator.Proofs.Endings

/-!
# A finished pass is a fixpoint

Once a pass has ended for good, done or with a fault of the spec, the same pass on the store it left has
nothing to do: it looks at the same objects, finds every child up to date and the status already
reported, and ends the same way without a single write.
-/

namespace ServerOperator

open MemoryStore (Alike handler)

/-! ## Looking at what is up to date -/

section
variable {srv : Server} {t : MemoryStore}

/-- A child that is live and needs no merging is left alone. -/
theorem Child.look_apply {c : Child} {w live : c.kind.Object} (hw : c.wanted srv = .ok w)
    (hlive : t.object? c.kind srv.key = some live) (hfit : c.merge live w = live) :
    t.look (c.apply srv).run = some (.ok ()) := by
  rw [apply, hw, MemoryStore.look_attempt]
  show t.look (Attempt.call _ _ >>= _).run = _
  rw [MemoryStore.look_attempt, MemoryStore.look_get, hlive]
  dsimp only [Option.bind]
  rw [if_pos hfit]
  rfl

theorem look_forM_apply : ∀ {cs : List Child}, (∀ c ∈ cs, ∃ w live, c.wanted srv = .ok w ∧
    t.object? c.kind srv.key = some live ∧ c.merge live w = live) →
    t.look (cs.forM (·.apply srv)).run = some (.ok ())
  | [], _ => rfl
  | c :: cs, h => by
    obtain ⟨w, live, hw, hlive, hfit⟩ := h c (List.mem_cons_self ..)
    show t.look (c.apply srv >>= fun _ => cs.forM (·.apply srv)).run = _
    rw [MemoryStore.look_attempt, Child.look_apply hw hlive hfit]
    exact look_forM_apply fun d hd => h d (List.mem_cons_of_mem _ hd)

theorem Server.look_readiness : t.look srv.readiness.run = some (.ok (t.live srv.key)) := rfl

/-- A status that stands already is not written again. -/
theorem Server.look_writeStatus {phase : Phase} {message : String} {r : Readiness}
    (h : ∀ latest : Server, t.object? .server srv.key = some latest →
      latest.status = some (ServerStatus.report phase message r latest.metadata.generation)) :
    t.look (srv.writeStatus phase message r).run = some (.ok ()) := by
  have hget : t.look (srv.statusCall phase (.get .server srv.key)).run = some (.ok (t.object? .server srv.key)) := rfl
  rw [writeStatus, MemoryStore.look_attempt, hget]
  cases hl : t.object? .server srv.key with
  | none => rfl
  | some latest =>
    dsimp only [Option.bind]
    rw [if_pos (h latest hl)]
    rfl

/-! ## Looking again -/

namespace Pass

theorem look_reject {α : Type} {e : OperatorError} (h : ∀ latest : Server, t.object? .server srv.key = some latest →
    latest.status = some (ServerStatus.report .failed e.message (t.live srv.key) latest.metadata.generation)) :
    t.look (reject srv e : Attempt α).run = some (.error e) := by
  rw [reject, ExceptT.run_mk, MemoryStore.look_bind, report]
  show (t.look (srv.readiness.run >>= _)).bind _ = _
  rw [MemoryStore.look_bind, Server.look_readiness]
  show (t.look ((srv.writeStatus .failed e.message (t.live srv.key)).run >>= _)).bind _ = _
  rw [MemoryStore.look_bind, Server.look_writeStatus h]
  rfl

theorem look_converge (hc : ∀ c : Child, ∃ w live, c.wanted srv = .ok w ∧
      t.object? c.kind srv.key = some live ∧ c.merge live w = live)
    (h : ∀ latest : Server, t.object? .server srv.key = some latest → latest.status =
      some (ServerStatus.report (t.live srv.key).phase (t.live srv.key).message (t.live srv.key)
        latest.metadata.generation)) :
    t.look (converge srv).run = some (.ok .done) := by
  rw [converge, MemoryStore.look_attempt, MemoryStore.look_lift, Server.applyChildren,
    look_forM_apply fun c _ => hc c]
  dsimp only [Option.map, Option.bind]
  rw [MemoryStore.look_attempt, Server.look_readiness]
  dsimp only [Option.bind]
  rw [MemoryStore.look_attempt, Server.look_writeStatus h]
  rfl

/-- The pass needs no other until something changes. -/
def Finished : Except OperatorError Outcome → Prop
  | .ok o => o = .done
  | .error e => e.isValidation = true

instance : DecidablePred Finished
  | .ok _ => inferInstanceAs (Decidable (_ = _))
  | .error _ => inferInstanceAs (Decidable (_ = _))

section
variable {key : Key} {s u : MemoryStore} (hsrv : s.object? .server key = some srv)
include hsrv

theorem look_pass {x : Option (Except OperatorError Outcome)} (h : s.look (ofServer key srv).run = x) :
    s.look (pass key).run = x := by
  rw [pass, MemoryStore.look_attempt, MemoryStore.look_get, hsrv]
  exact h

theorem look_of_reported {e : OperatorError} (hf : srv.fault? = some e)
    (ht : Alike t (s.reported srv.key .failed e.message (s.live srv.key))) :
    t.look (pass key).run = some (.error e) := by
  obtain ⟨srv', hsrv', hb⟩ := MemoryStore.bare_reported srv.key .failed e.message (s.live srv.key) hsrv
  refine look_pass ((ht.object? ..).trans hsrv') ?_
  rw [ofServer_of_fault ((Server.fault?_of_bare hb).trans hf)]
  refine look_reject fun latest hl => ?_
  rw [Server.key_of_bare hb] at hl ⊢
  rw [ht.object?] at hl
  rw [ht.live, MemoryStore.live_reported, MemoryStore.status_reported _ _ _ _ hl]

theorem look_of_settled (hf : srv.fault? = none) (hd : srv.fillDefaults.2 = false) (ht : Alike t (settled srv s)) :
    t.look (pass key).run = some (.ok .done) := by
  obtain ⟨srv', hsrv', hb⟩ := bare_settled srv s hsrv
  have hkey : srv'.key = srv.key := Server.key_of_bare hb
  refine look_pass ((ht.object? ..).trans hsrv') ?_
  rw [ofServer_of_complete (Server.validate_of_fault ((Server.fault?_of_bare hb).trans hf))
    ((Server.fillDefaults_of_bare hb).2.trans hd)]
  refine look_converge (fun c => ?_) fun latest hl => ?_
  · obtain ⟨w, hw⟩ := wanted_of_sound hf hd c
    obtain ⟨v, hv⟩ := child_settled srv s hw
    refine ⟨w, _, (Server.wanted_of_bare hb c).trans hw, ?_, c.fit_fit hw srv.space (s.object? c.kind srv.key) v⟩
    rw [hkey, ht.object?, hv]
  · rw [hkey, ht.object?] at hl
    rw [hkey, ht.live]
    exact status_settled srv s hl

/-- After a finished pass, looking is enough for the next. -/
theorem look_of_ending {r : Except OperatorError Outcome} (hs : s.Reliable) (h : Ending key s srv r u)
    (hr : Finished r) (ht : Alike t u) : t.look (pass key).run = some r := by
  cases h with
  | reported hf =>
    rw [MemoryStore.seen, if_pos hs.visible] at ht
    exact look_of_reported hsrv hf ht
  | settled hf hd => exact look_of_settled hsrv hf hd ht
  | filled => cases hr
  | unreported _ hn => exact absurd hs hn
  | unfilled _ _ hg | stopped _ _ hg => exact absurd hs hg.unreliable

end

end Pass

end

/-- On a store that refuses nothing, a pass that ended done or with a fault of the spec ends the same way
when it is made again, and the second time it only reads. -/
theorem finished_pass_is_fixpoint (key : Key) {s : MemoryStore} (hs : s.Reliable)
    (h : Pass.Finished (Pass.inMemory key s).value) :
    (Pass.inMemory key (Pass.inMemory key s).state).value = (Pass.inMemory key s).value ∧
      (Pass.inMemory key (Pass.inMemory key s).state).state = (Pass.inMemory key s).state ∧
      ∀ x ∈ (pass key).run.calls handler (Pass.inMemory key s).state, x.call.isRead = true := by
  refine MemoryStore.run_of_look (hs.run _) ?_
  rcases pass_ended key s with ⟨hp, _⟩ | ⟨_, hnone, hr, ht⟩ | ⟨_, srv, hsrv, u, hu, ht⟩
  · exact absurd (hs.permits _ _) hp
  · have hstay : (Pass.inMemory key s).state.look (pass key).run = some (.ok .done) := by
      rw [pass, MemoryStore.look_attempt, MemoryStore.look_get, ht.object?, hnone]
      rfl
    exact hstay.trans (congrArg some hr.symm)
  · exact Pass.look_of_ending hsrv hs hu h ht

/-- The first pass on the sample replaces a child, creates two, and writes a status; the second does nothing. -/
theorem finished_pass_is_fixpoint_sample :
    (Pass.inMemory sampleServer.key sampleStore).state.writes.length = 3 ∧
      (Pass.inMemory sampleServer.key (Pass.inMemory sampleServer.key sampleStore).state).state =
        (Pass.inMemory sampleServer.key sampleStore).state := by
  have hs : sampleStore.Reliable := MemoryStore.reliable_clearFailures sampleStore
  have h : Pass.Finished (Pass.inMemory sampleServer.key sampleStore).value := by decide
  exact ⟨by decide, (finished_pass_is_fixpoint sampleServer.key hs h).2.1⟩

end ServerOperator
