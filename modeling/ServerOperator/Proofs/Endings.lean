import ServerOperator.Proofs.Settling

/-!
# How a pass can end

Every part of a pass either does what it does on a store that refuses nothing, or gives up at a refused
call with an error that is not about the spec, and leaves what it has done so far. Put together: the
endings of a pass (`Pass.Ending`), and that there are no others (`pass_ending`).
-/

namespace ServerOperator

open MemoryStore (Alike handler)

structure GaveUp {α : Type} (s : MemoryStore) (r : Except OperatorError α) : Prop where
  unreliable : ¬ s.Reliable
  error : ∃ e, r = .error e ∧ e.isValidation = false

theorem GaveUp.mono {α : Type} {s t : MemoryStore} {r : Except OperatorError α} (h : GaveUp t r)
    (hst : s.Reliable → t.Reliable) : GaveUp s r :=
  ⟨mt hst h.unreliable, h.error⟩

theorem GaveUp.of_error {α : Type} {s : MemoryStore} {e : OperatorError} (hs : ¬ s.Reliable)
    (he : e.isValidation = false) : GaveUp s (.error e : Except OperatorError α) :=
  ⟨hs, e, rfl, he⟩

/-- What ends with a property still does, and a reliable store stays one. -/
theorem Program.Ends.imp_reliable {α : Type} {p : Program α} {s : MemoryStore} {Q R : α → MemoryStore → Prop}
    (h : p.Ends handler s Q) (hQR : ∀ a t, (s.Reliable → t.Reliable) → Q a t → R a t) : p.Ends handler s R :=
  hQR _ _ (fun hs => hs.run p) h

/-! ## Applying children -/

namespace Child

variable (c : Child) (srv : Server)

theorem isValidation_callFailed (operation : String) (f : StoreFailure) :
    (c.callFailed srv operation f).isValidation = false := by
  cases c <;> rfl

theorem create_ends {w : c.kind.Object} (hw : c.wanted srv = .ok w) {s : MemoryStore}
    (hfree : s.object? c.kind srv.key = none) :
    (c.create srv w).run.Ends handler s fun r t =>
      (r = .ok () ∧ Alike t (s.written .create c.kind srv.key (c.kind.inSpace w srv.space))) ∨
        (GaveUp s r ∧ Alike t s) := by
  rw [create, Attempt.ends_bind, Attempt.ends_call]
  rcases MemoryStore.create_cases s c.kind (c.metadata_of_wanted hw) hfree with ⟨hp, f, h⟩ | ⟨_, a, t, h, ht⟩ <;>
    rw [h]
  · exact .inr ⟨.of_error (fun hs => hp (hs.permits _ _)) (c.isValidation_callFailed ..), .refl s⟩
  · exact .inl ⟨rfl, ht⟩

theorem update_ends {w live : c.kind.Object} {s : MemoryStore} (hlive : s.object? c.kind srv.key = some live) :
    (c.update srv (c.merge live w)).run.Ends handler s fun r t =>
      (r = .ok () ∧ Alike t (s.written .replace c.kind srv.key (c.merge live w))) ∨ (GaveUp s r ∧ Alike t s) := by
  rw [update, Attempt.ends_bind, Attempt.ends_call]
  have hv : (c.kind.metadata (c.merge live w)).resourceVersion = (c.kind.metadata live).resourceVersion := by
    cases c <;> rfl
  rcases MemoryStore.replace_cases s c.kind hlive hv with ⟨hp, f, h⟩ | ⟨_, a, t, h, ht⟩ <;> rw [h]
  · exact .inr ⟨.of_error (fun hs => hp (hs.permits _ _)) (c.isValidation_callFailed ..), .refl s⟩
  · rw [MemoryStore.retain_merge] at ht
    exact .inl ⟨rfl, ht⟩

theorem apply_ends {w : c.kind.Object} (hw : c.wanted srv = .ok w) (s : MemoryStore) :
    (c.apply srv).run.Ends handler s fun r t =>
      (r = .ok () ∧ Alike t (s.settle srv c)) ∨ (GaveUp s r ∧ Alike t s) := by
  have hsettle : s.settle srv c =
      if s.object? c.kind srv.key = some (c.fit srv.space w (s.object? c.kind srv.key)) then s
      else s.written (if (s.object? c.kind srv.key).isSome then .replace else .create) c.kind srv.key
        (c.fit srv.space w (s.object? c.kind srv.key)) := by
    simp only [MemoryStore.settle, hw]
  rw [apply, hw, Attempt.ends_bind, Attempt.ends_ofExcept]
  dsimp only
  rw [Attempt.ends_bind, Attempt.ends_call]
  rcases MemoryStore.get_cases s c.kind srv.key with ⟨hp, f, h⟩ | ⟨_, t, ht, h⟩ <;> rw [h]
  · exact .inr ⟨.of_error (fun hs => hp (hs.permits _ _)) (c.isValidation_callFailed ..), .refl s⟩
  have hgave {r : Except OperatorError Unit} {u : MemoryStore} (h : GaveUp t r ∧ Alike u t) : GaveUp s r ∧ Alike u s :=
    ⟨h.1.mono ht.reliable, h.2.trans ht.alike⟩
  rw [hsettle]
  cases hlive : s.object? c.kind srv.key with
  | none =>
    have hfree : t.object? c.kind srv.key = none := (ht.alike.object? _ _).trans hlive
    refine (c.create_ends srv hw hfree).imp fun r u h => ?_
    rcases h with ⟨hr, hu⟩ | h
    · exact .inl ⟨hr, hu.trans (ht.alike.written ..)⟩
    · exact .inr (hgave h)
  | some live =>
    by_cases e : c.merge live w = live
    · have : some live = some (c.fit srv.space w (some live)) := congrArg some e.symm
      simp only [Except.mapError_ok, e, if_true, ← this]
      exact .inl ⟨rfl, ht.alike⟩
    · have : some live ≠ some (c.fit srv.space w (some live)) := fun h => e (Option.some.inj h).symm
      simp only [Except.mapError_ok, e, if_false, if_neg this]
      refine (c.update_ends srv ((ht.alike.object? _ _).trans hlive)).imp fun r u h => ?_
      rcases h with ⟨hr, hu⟩ | h
      · exact .inl ⟨hr, hu.trans (ht.alike.written ..)⟩
      · exact .inr (hgave h)

end Child

/-- Children are applied in order, up to a refused call. -/
theorem forM_apply_ends {srv : Server} (hw : ∀ c : Child, ∃ w, c.wanted srv = .ok w) :
    ∀ (cs : List Child) (s : MemoryStore), (cs.forM (·.apply srv)).run.Ends handler s fun r t =>
      (r = .ok () ∧ Alike t (cs.foldl (MemoryStore.settle srv) s)) ∨
        (GaveUp s r ∧ ∃ done rest, cs = done ++ rest ∧ Alike t (done.foldl (MemoryStore.settle srv) s))
  | [], s => .inl ⟨rfl, .refl s⟩
  | c :: cs, s => by
    obtain ⟨w, hc⟩ := hw c
    show (c.apply srv >>= fun _ => cs.forM (·.apply srv)).run.Ends _ _ _
    rw [Attempt.ends_bind]
    refine (c.apply_ends srv hc s).imp_reliable fun r u hrel h => ?_
    rcases h with ⟨rfl, hu⟩ | ⟨hg, hu⟩
    · refine (forM_apply_ends hw cs u).imp fun r' t h' => ?_
      rcases h' with ⟨hr, ht⟩ | ⟨hg, done, rest, e, ht⟩
      · exact .inl ⟨hr, ht.trans (hu.settleAll srv cs)⟩
      · exact .inr ⟨hg.mono hrel, c :: done, rest, by rw [e]; rfl, ht.trans (hu.settleAll srv done)⟩
    · obtain ⟨e, rfl, he⟩ := hg.error
      exact .inr ⟨.of_error hg.unreliable he, [], c :: cs, rfl, hu⟩

theorem applyChildren_of_error {srv : Server} {e : OperatorError} (h : srv.deployment = .error e) :
    srv.applyChildren.run = Program.done (.error e) := by
  have hd : (Child.deployment.apply srv).run = Program.done (.error e) := by
    show ((Attempt.ofExcept srv.deployment >>= _).run) = _
    rw [h]; rfl
  show (Child.deployment.apply srv >>= fun _ => [Child.service, .ingress].forM (·.apply srv)).run = _
  rw [ExceptT.run_bind, hd]; rfl

/-! ## Looking at children -/

theorem Child.isValidation_readFailed (c : Child) (srv : Server) (f : StoreFailure) :
    (c.readFailed srv f).isValidation = false := rfl

theorem Child.readiness_ends (c : Child) (srv : Server) (s : MemoryStore) :
    (c.readiness srv).run.Ends handler s fun r t =>
      (¬ s.Permits c.kind .get ∧ t = s ∧ ∃ e, r = .error e ∧ e.isValidation = false) ∨
        (s.Permits c.kind .get ∧ MemoryStore.Spent c.kind .get s t ∧
          r = .ok (c.isReady (s.object? c.kind srv.key))) := by
  rw [readiness, Attempt.ends_bind, Attempt.ends_call]
  rcases MemoryStore.get_cases s c.kind srv.key with ⟨hp, f, h⟩ | ⟨hp, t, ht, h⟩ <;> rw [h]
  · exact .inl ⟨hp, rfl, _, rfl, c.isValidation_readFailed srv f⟩
  · exact .inr ⟨hp, ht, rfl⟩

def MemoryStore.Visible (s : MemoryStore) : Prop := ∀ c : Child, s.Permits c.kind .get

instance (s : MemoryStore) : Decidable s.Visible :=
  decidable_of_iff (∀ c ∈ Child.all, s.Permits c.kind .get)
    ⟨fun h c => h c (by cases c <;> decide), fun h c _ => h c⟩

theorem MemoryStore.Reliable.visible {s : MemoryStore} (hs : s.Reliable) : s.Visible :=
  fun _ => hs.permits _ _

theorem Server.readiness_ends (srv : Server) (s : MemoryStore) :
    srv.readiness.run.Ends handler s fun r t =>
      Alike t s ∧ ((s.Visible ∧ r = .ok (s.live srv.key)) ∨ (¬ s.Visible ∧ GaveUp s r)) := by
  have hgave {e : OperatorError} (hv : ¬ s.Visible) (he : e.isValidation = false) :
      (s.Visible ∧ (.error e : Except OperatorError Readiness) = .ok (s.live srv.key)) ∨
        (¬ s.Visible ∧ GaveUp s (.error e : Except OperatorError Readiness)) :=
    .inr ⟨hv, .of_error (mt (·.visible) hv) he⟩
  rw [Server.readiness, Attempt.ends_bind]
  refine (Child.deployment.readiness_ends srv s).imp fun r t h => ?_
  rcases h with ⟨hd, rfl, e, rfl, he⟩ | ⟨hd, ht, rfl⟩
  · exact ⟨.refl _, hgave (fun hv => hd (hv .deployment)) he⟩
  dsimp only
  rw [Attempt.ends_bind]
  refine (Child.service.readiness_ends srv t).imp fun r u h => ?_
  rw [ht.permits .service .get (by decide)] at h
  rcases h with ⟨hs, rfl, e, rfl, he⟩ | ⟨hs, hu, rfl⟩
  · exact ⟨ht.alike, hgave (fun hv => hs (hv .service)) he⟩
  dsimp only
  rw [Attempt.ends_bind]
  refine (Child.ingress.readiness_ends srv u).imp fun r v h => ?_
  rw [hu.permits .ingress .get (by decide), ht.permits .ingress .get (by decide)] at h
  have htu : Alike u s := hu.alike.trans ht.alike
  rcases h with ⟨hi, rfl, e, rfl, he⟩ | ⟨hi, hv, rfl⟩
  · exact ⟨htu, hgave (fun hv => hi (hv .ingress)) he⟩
  refine ⟨hv.alike.trans htu, .inl ⟨fun c => by cases c <;> assumption, ?_⟩⟩
  rw [ht.alike.object?, htu.object?]
  rfl

/-! ## Reporting -/

theorem Server.statusCall_ends {srv : Server} {phase : Phase} {c : Call} {s : MemoryStore}
    {Q : Except OperatorError c.Answer → MemoryStore → Prop} : (srv.statusCall phase c).run.Ends handler s Q ↔
      Q ((handler s c).1.mapError (srv.statusFailed phase)) (handler s c).2 := by
  simp only [Server.statusCall, ExceptT.run_mk, Program.ends_call]
  cases (handler s c).1 <;> exact Iff.rfl

theorem Server.writeStatus_ends (srv : Server) (phase : Phase) (message : String) (r : Readiness) (s : MemoryStore) :
    (srv.writeStatus phase message r).run.Ends handler s fun v t =>
      (v = .ok () ∧ Alike t (s.reported srv.key phase message r)) ∨ (GaveUp s v ∧ Alike t s) := by
  rw [Server.writeStatus, Attempt.ends_bind, Server.statusCall_ends]
  rcases MemoryStore.get_cases s .server srv.key with ⟨hp, f, h⟩ | ⟨_, t, ht, h⟩ <;> rw [h]
  · exact .inr ⟨.of_error (fun hs => hp (hs.permits _ _)) rfl, .refl s⟩
  cases hlive : s.object? .server srv.key with
  | none =>
    have : s.reported srv.key phase message r = s := by simp only [MemoryStore.reported, hlive]
    rw [this]
    exact .inl ⟨rfl, ht.alike⟩
  | some latest =>
    simp only [MemoryStore.reported, hlive, Except.mapError_ok]
    split
    · exact .inl ⟨rfl, ht.alike⟩
    · rw [Attempt.ends_bind, Server.statusCall_ends]
      rcases MemoryStore.patchStatus_cases t ((ht.alike.object? _ _).trans hlive)
        (ServerStatus.report phase message r latest.metadata.generation) with ⟨hp, f, h⟩ | ⟨_, u, h, hu⟩ <;> rw [h]
      · exact .inr ⟨.of_error (fun hs => hp ((ht.reliable hs).permits _ _)) rfl, ht.alike⟩
      · exact .inl ⟨rfl, hu.trans (ht.alike.patched ..)⟩

/-- The readiness that is reported with a fault: none if a child cannot be looked at. -/
def MemoryStore.seen (s : MemoryStore) (key : Key) : Readiness :=
  if s.Visible then s.live key else {}

namespace Pass

theorem report_ends (srv : Server) (e : OperatorError) (s : MemoryStore) :
    (report srv e).Ends handler s fun _ t =>
      Alike t (s.reported srv.key .failed e.message (s.seen srv.key)) ∨ (¬ s.Reliable ∧ Alike t s) := by
  rw [report, Program.ends_bind, Program.tally, Program.ends_count, Program.ends_done, Program.ends_bind]
  refine (srv.readiness_ends s).imp_reliable fun r t hrel ⟨ht, h⟩ => ?_
  have hr : r.toOption.getD {} = s.seen srv.key := by
    rcases h with ⟨hv, rfl⟩ | ⟨hv, hg⟩
    · rw [MemoryStore.seen, if_pos hv]; rfl
    · obtain ⟨e, rfl, _⟩ := hg.error
      rw [MemoryStore.seen, if_neg hv]; rfl
  rw [hr, Program.ends_bind]
  refine (srv.writeStatus_ends .failed e.message (s.seen srv.key) t).imp fun v u h => ?_
  rcases h with ⟨_, hu⟩ | ⟨hg, hu⟩
  · exact .inl (hu.trans (ht.reported ..))
  · exact .inr ⟨mt hrel hg.unreliable, hu.trans ht⟩

theorem reject_ends {α : Type} (srv : Server) (e : OperatorError) (s : MemoryStore) :
    (reject srv e : Attempt α).run.Ends handler s fun r t => r = .error e ∧
      (Alike t (s.reported srv.key .failed e.message (s.seen srv.key)) ∨ (¬ s.Reliable ∧ Alike t s)) := by
  rw [reject, ExceptT.run_mk, Program.ends_bind]
  exact (report_ends srv e s).imp fun _ t h => ⟨rfl, h⟩

theorem ofServer_of_complete {key : Key} {srv : Server} (hv : srv.validate = .ok ()) (hd : srv.fillDefaults.2 = false) :
    ofServer key srv = converge srv := by
  unfold ofServer
  rw [hv]
  dsimp only
  rw [hd, Server.fillDefaults_of_unfilled hd]
  rfl

theorem ofServer_of_open {key : Key} {srv : Server} (hv : srv.validate = .ok ()) (hd : srv.fillDefaults.2 = true) :
    ofServer key srv = (do
      let _ ← Attempt.call (.replace .server key srv.fillDefaults.1) (defaultsFailed key)
      return .requeueNow) := by
  unfold ofServer
  rw [hv]
  dsimp only
  rw [hd]
  rfl

theorem ofServer_of_fault {key : Key} {srv : Server} {e : OperatorError} (h : srv.fault? = some e) :
    ofServer key srv = reject srv e := by
  rcases Server.fault?_eq_some_iff.mp h with hv | ⟨hv, hd, he⟩
  · simp only [ofServer, hv]
  · rw [ofServer_of_complete hv hd, converge, applyChildren_of_error he]
    show (if e.isValidation then reject srv e else throw e : Attempt Outcome) = reject srv e
    rw [Server.isValidation_of_fault h]
    rfl

/-- What a pass without a fault, and with nothing to fill in, makes of the store. -/
def settled (srv : Server) (s : MemoryStore) : MemoryStore :=
  let t := Child.all.foldl (MemoryStore.settle srv) s
  t.reported srv.key (t.live srv.key).phase (t.live srv.key).message (t.live srv.key)

section
variable (srv : Server) (s : MemoryStore)

theorem exists_settled : ∃ m, m = Child.all.foldl (MemoryStore.settle srv) s ∧
    settled srv s = m.reported srv.key (m.live srv.key).phase (m.live srv.key).message (m.live srv.key) :=
  ⟨_, rfl, rfl⟩

theorem child_settled {c : Child} {w : c.kind.Object} (hw : c.wanted srv = .ok w) : ∃ v,
    (settled srv s).object? c.kind srv.key =
      some (c.kind.withVersion (c.fit srv.space w (s.object? c.kind srv.key)) v) := by
  obtain ⟨m, hm, e⟩ := exists_settled srv s
  obtain ⟨v, hv⟩ := MemoryStore.object?_settleAll srv hw Child.all s (by decide) (by cases c <;> decide)
  refine ⟨v, ?_⟩
  rw [e, MemoryStore.object?_reported_ne _ _ _ _ (.inl c.kind_ne_server), hm, hv]

/-- A child is as ready as it is fitted, whatever version it got. -/
theorem isReady_settled {c : Child} {w : c.kind.Object} (hw : c.wanted srv = .ok w) :
    c.isReady ((settled srv s).object? c.kind srv.key) =
      c.isReady (some (c.fit srv.space w (s.object? c.kind srv.key))) := by
  obtain ⟨v, hv⟩ := child_settled srv s hw
  rw [hv, ← c.isReady_unversioned, Option.map_some, Kind.unversioned_withVersion, ← Option.map_some,
    c.isReady_unversioned]

theorem bare_settled {key : Key} {stored : Server} (h : s.object? .server key = some stored) :
    ∃ stored', (settled srv s).object? .server key = some stored' ∧ stored'.bare = stored.bare := by
  obtain ⟨m, hm, e⟩ := exists_settled srv s
  rw [e]
  refine MemoryStore.bare_reported _ _ _ _ ?_
  rw [hm, MemoryStore.object?_settleAll_server, h]

theorem status_settled {latest : Server} (h : (settled srv s).object? .server srv.key = some latest) :
    latest.status = some (ServerStatus.report ((settled srv s).live srv.key).phase
      ((settled srv s).live srv.key).message ((settled srv s).live srv.key) latest.metadata.generation) := by
  obtain ⟨m, hm, e⟩ := exists_settled srv s
  rw [e] at h ⊢
  rw [MemoryStore.live_reported, MemoryStore.status_reported _ _ _ _ h]

end

theorem settled_alike (srv : Server) {s t : MemoryStore} (h : Alike s t) : Alike (settled srv s) (settled srv t) := by
  have ha := h.settleAll srv Child.all
  simp only [settled, ha.live]
  exact ha.reported ..

theorem converge_ends {srv : Server} (hw : ∀ c : Child, ∃ w, c.wanted srv = .ok w) (s : MemoryStore) :
    (converge srv).run.Ends handler s fun r t => (r = .ok .done ∧ Alike t (settled srv s)) ∨
      (GaveUp s r ∧ ∃ done rest, Child.all = done ++ rest ∧ Alike t (done.foldl (MemoryStore.settle srv) s)) := by
  rw [converge, Attempt.ends_bind, Attempt.ends_lift]
  refine (forM_apply_ends hw Child.all s).imp_reliable fun r t hrel h => ?_
  rcases h with ⟨rfl, ht⟩ | ⟨hg, done, rest, hc, ht⟩
  · dsimp only
    rw [Attempt.ends_bind]
    refine (srv.readiness_ends t).imp_reliable fun r u hrel' ⟨hu, h⟩ => ?_
    rcases h with ⟨_, rfl⟩ | ⟨_, hg⟩
    · dsimp only
      rw [Attempt.ends_bind, ht.live]
      have hus : Alike u (Child.all.foldl (MemoryStore.settle srv) s) := hu.trans ht
      refine (srv.writeStatus_ends _ _ _ u).imp fun v x h => ?_
      rcases h with ⟨rfl, hx⟩ | ⟨hg, hx⟩
      · exact .inl ⟨rfl, hx.trans (hus.reported ..)⟩
      · obtain ⟨e, rfl, he⟩ := hg.error
        exact .inr ⟨.of_error (mt (hrel' ∘ hrel) hg.unreliable) he, Child.all, [], rfl, hx.trans hus⟩
    · obtain ⟨e, rfl, he⟩ := hg.error
      exact .inr ⟨.of_error (mt hrel hg.unreliable) he, Child.all, [], rfl, hu.trans ht⟩
  · -- A refused call is no fault of the spec, so that its error is not reported.
    obtain ⟨e, rfl, he⟩ := hg.error
    dsimp only
    rw [he]
    exact .inr ⟨.of_error hg.unreliable he, done, rest, hc, ht⟩

/-! ## The endings of a pass -/

/-- How the pass of a stored server can end, and with which store, up to the failures that are left. -/
inductive Ending (key : Key) (s : MemoryStore) (srv : Server) : Except OperatorError Outcome → MemoryStore → Prop
  | reported {e : OperatorError} (fault : srv.fault? = some e) :
    Ending key s srv (.error e) (s.reported srv.key .failed e.message (s.seen srv.key))
  | unreported {e : OperatorError} (fault : srv.fault? = some e) (unreliable : ¬ s.Reliable) :
    Ending key s srv (.error e) s
  | filled (sound : srv.fault? = none) (open_ : srv.fillDefaults.2 = true) :
    Ending key s srv (.ok .requeueNow)
      (s.written .replace .server key (MemoryStore.retain .server srv srv.fillDefaults.1))
  | unfilled {r : Except OperatorError Outcome} (sound : srv.fault? = none) (open_ : srv.fillDefaults.2 = true)
    (gaveUp : GaveUp s r) : Ending key s srv r s
  | settled (sound : srv.fault? = none) (closed : srv.fillDefaults.2 = false) :
    Ending key s srv (.ok .done) (settled srv s)
  | stopped {r : Except OperatorError Outcome} {done rest : List Child} (sound : srv.fault? = none)
    (closed : srv.fillDefaults.2 = false) (gaveUp : GaveUp s r) (order : Child.all = done ++ rest) :
    Ending key s srv r (done.foldl (MemoryStore.settle srv) s)

variable {key : Key} {s : MemoryStore}

theorem wanted_of_sound {srv : Server} (hf : srv.fault? = none) (hd : srv.fillDefaults.2 = false) :
    ∀ c : Child, ∃ w, c.wanted srv = .ok w
  | .deployment => Server.deployment_of_fault hf hd
  | .service | .ingress => ⟨_, rfl⟩

theorem ofServer_ending {t : MemoryStore} (ht : MemoryStore.Spent .server .get s t) {srv : Server}
    (hsrv : s.object? .server key = some srv) :
    (ofServer key srv).run.Ends handler t fun r u => ∃ v, Ending key s srv r v ∧ Alike u v := by
  have hrel : ¬ t.Reliable → ¬ s.Reliable := mt ht.reliable
  cases hf : srv.fault? with
  | some e =>
    have hseen : t.seen srv.key = s.seen srv.key := by
      have hv : t.Visible ↔ s.Visible := forall_congr' fun c => ht.permits c.kind .get (by cases c <;> decide)
      simp only [MemoryStore.seen, hv, ht.alike.live]
    rw [ofServer_of_fault hf]
    refine (reject_ends srv e t).imp fun r u ⟨hr, h⟩ => ?_
    subst hr
    rcases h with hu | ⟨hn, hu⟩
    · rw [hseen] at hu
      exact ⟨_, .reported hf, hu.trans (ht.alike.reported ..)⟩
    · exact ⟨_, .unreported hf (hrel hn), hu.trans ht.alike⟩
  | none =>
    cases hd : srv.fillDefaults.2 with
    | true =>
      rw [ofServer_of_open (Server.validate_of_fault hf) hd, Attempt.ends_bind, Attempt.ends_call]
      rcases t.replace_cases .server ((ht.alike.object? _ _).trans hsrv) (o := srv.fillDefaults.1) rfl with
        ⟨hp, f, h⟩ | ⟨_, a, u, h, hu⟩ <;> rw [h]
      · exact ⟨s, .unfilled hf hd (.of_error (hrel fun hs => hp (hs.permits _ _)) rfl), ht.alike⟩
      · exact ⟨_, .filled hf hd, hu.trans (ht.alike.written ..)⟩
    | false =>
      rw [ofServer_of_complete (Server.validate_of_fault hf) hd]
      refine (converge_ends (wanted_of_sound hf hd) t).imp fun r u h => ?_
      rcases h with ⟨rfl, hu⟩ | ⟨hg, done, rest, hc, hu⟩
      · exact ⟨_, .settled hf hd, hu.trans (settled_alike srv ht.alike)⟩
      · exact ⟨_, .stopped hf hd (hg.mono ht.reliable) hc, hu.trans (ht.alike.settleAll srv done)⟩

end Pass

def Pass.inMemory (key : Key) (s : MemoryStore) : Program.Run MemoryStore (Except OperatorError Outcome) :=
  (pass key).run.run handler s

def Pass.Ended (key : Key) (s : MemoryStore) (r : Except OperatorError Outcome) (t : MemoryStore) : Prop :=
  (¬ s.Permits .server .get ∧ t = s ∧ ∃ e, r = .error e ∧ e.isValidation = false) ∨
    (s.Permits .server .get ∧ s.object? .server key = none ∧ r = .ok .done ∧ Alike t s) ∨
    (s.Permits .server .get ∧ ∃ srv, s.object? .server key = some srv ∧ ∃ u, Pass.Ending key s srv r u ∧ Alike t u)

theorem pass_ended (key : Key) (s : MemoryStore) :
    Pass.Ended key s (Pass.inMemory key s).value (Pass.inMemory key s).state := by
  show (pass key).run.Ends handler s (Pass.Ended key s)
  rw [pass, Attempt.ends_bind, Attempt.ends_call]
  rcases MemoryStore.get_cases s .server key with ⟨hp, f, h⟩ | ⟨hp, t, ht, h⟩ <;> rw [h]
  · exact .inl ⟨hp, rfl, _, rfl, rfl⟩
  cases hsrv : s.object? .server key with
  | none => exact .inr (.inl ⟨hp, hsrv, rfl, ht.alike⟩)
  | some srv => exact .inr (.inr ⟨hp, srv, hsrv, Pass.ofServer_ending ht hsrv⟩)

section
variable {key : Key} {s : MemoryStore} {srv : Server} (hsrv : s.object? .server key = some srv)
include hsrv

/-- The pass of a server that is stored cannot read it, or ends as its pass. -/
theorem pass_ended_of_stored :
    (¬ s.Permits .server .get ∧ (Pass.inMemory key s).state = s ∧
        ∃ e, (Pass.inMemory key s).value = .error e ∧ e.isValidation = false) ∨
      (s.Permits .server .get ∧ ∃ u, Pass.Ending key s srv (Pass.inMemory key s).value u ∧
        Alike (Pass.inMemory key s).state u) := by
  rcases pass_ended key s with h | ⟨_, hnone, _⟩ | ⟨hp, srv', hsrv', u, hu, ht⟩
  · exact .inl h
  · rw [hnone] at hsrv
    cases hsrv
  · cases hsrv'.symm.trans hsrv
    exact .inr ⟨hp, u, hu, ht⟩

/-- Where nothing is refused, the pass of a complete and sound server settles it. -/
theorem settled_of_reliable (hs : s.Reliable) (hf : srv.fault? = none) (hd : srv.fillDefaults.2 = false) :
    (Pass.inMemory key s).value = .ok .done ∧ Alike (Pass.inMemory key s).state (Pass.settled srv s) := by
  rcases pass_ended_of_stored hsrv with ⟨hp, _⟩ | ⟨_, u, hu, ht⟩
  · exact absurd (hs.permits _ _) hp
  generalize (Pass.inMemory key s).value = r at hu
  cases hu with
  | settled => exact ⟨rfl, ht⟩
  | reported h | unreported h => rw [hf] at h; cases h
  | filled _ h => rw [hd] at h; cases h
  | unfilled _ _ hg | stopped _ _ hg => exact absurd hs hg.unreliable

/-- A pass that is done has settled its server, whatever it might have been refused. -/
theorem settled_of_done (hr : (Pass.inMemory key s).value = .ok .done) : srv.fault? = none ∧
    srv.fillDefaults.2 = false ∧ Alike (Pass.inMemory key s).state (Pass.settled srv s) := by
  rcases pass_ended_of_stored hsrv with ⟨_, _, e, he, _⟩ | ⟨_, u, hu, ht⟩
  · rw [he] at hr
    cases hr
  rw [hr] at hu
  cases hu with
  | settled hf hd => exact ⟨hf, hd, ht⟩
  | unfilled _ _ hg | stopped _ _ hg =>
    obtain ⟨e, he, _⟩ := hg.error
    cases he

/-- A server at fault that can be read is rejected, whatever else is refused. -/
theorem rejected_of_fault {e : OperatorError} (hp : s.Permits .server .get) (hf : srv.fault? = some e) :
    (Pass.inMemory key s).value = .error e ∧
      (Alike (Pass.inMemory key s).state (s.reported srv.key .failed e.message (s.seen srv.key)) ∨
        Alike (Pass.inMemory key s).state s) := by
  rcases pass_ended_of_stored hsrv with ⟨hn, _⟩ | ⟨_, u, hu, ht⟩
  · exact absurd hp hn
  generalize (Pass.inMemory key s).value = r at hu
  cases hu with
  | reported h => cases h.symm.trans hf; exact ⟨rfl, .inl ht⟩
  | unreported h => cases h.symm.trans hf; exact ⟨rfl, .inr ht⟩
  | filled h | unfilled h | settled h | stopped h => rw [hf] at h; cases h

end

/-! ## A sample -/

def sampleServer : Server where
  metadata := { name := some "search", ns := some "tools", uid := some "7f3a", generation := some 3,
                resourceVersion := some "1" }
  spec := {
    image := "search"
    imageTag := some "v2"
    replicas := some 2
    port := some 8080
    servicePort := some 80
    ingressHost := some "tools.example"
    ingressPath := some "/search"
    ingressClass := some "nginx"
    resources := some { requests := some { cpu := some "250m" } } }
  status := some { phase := some .failed, message := some "image is missing", observedGeneration := some 2 }

def sampleStore : MemoryStore :=
  (({ version := 2 } : MemoryStore).put .server sampleServer.key sampleServer).put .deployment sampleServer.key
    { metadata := { name := some "search", ns := some "tools", resourceVersion := some "2",
                    annotations := some ((∅ : SortedMap String).insert "team" "search") }
      spec := some {
        replicas := some 5
        paused := some true
        template := { spec := some { nodeSelector := some ∅, containers := [{ name := "sidecar" }] } } }
      status := some { replicas := some 5, readyReplicas := some 2 } }

end ServerOperator
