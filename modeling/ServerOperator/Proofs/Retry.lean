import ServerOperator.Proofs.Endings

/-!
# Retrying

Where passes over a sound server lead is settled before the first of them: the server with its defaults
written, each child fitted to what that server asks for. No pass moves this goal, whatever calls it is
refused; and where nothing is refused, one pass or two reach it.
-/

namespace ServerOperator

open MemoryStore (Alike handler)

def Server.filled (srv : Server) : Server := MemoryStore.retain .server srv srv.fillDefaults.1

theorem Server.filled_sound {srv : Server} (hv : srv.validate = .ok ()) (hq : srv.spec.QuantitiesValid) :
    srv.filled.fault? = none := by
  have hr : srv.filled.spec.resources = srv.spec.resources := by
    show (srv.spec.fillDefaults srv.name).1.resources = _
    rw [ServerSpec.fillDefaults_fst]
  refine fault?_eq_none (validate_fillDefaults hv) ?_
  simpa only [ServerSpec.QuantitiesValid, ServerSpec.quantities, hr] using hq

theorem Server.filled_closed (srv : Server) : srv.filled.fillDefaults.2 = false :=
  srv.fillDefaults_fillDefaults

theorem Server.filled_of_bare {a b : Server} (h : a.bare = b.bare) : a.filled.bare = b.filled.bare := by
  have e (s : Server) : s.bare.filled.bare = s.filled.bare := rfl
  rw [← e a, h, e b]

/-! ## Goals -/

/-- What the passes over a server lead to: the complete server and its children, without versions. -/
structure Goal (key : Key) where
  server : Server
  child : (c : Child) → c.kind.Object
  at_key : server.key = key
  sound : server.fault? = none
  closed : server.fillDefaults.2 = false

variable {key : Key}

def Goal.ready (g : Goal key) : Readiness where
  deployment := Child.deployment.isReady (some (g.child .deployment))
  service := Child.service.isReady (some (g.child .service))
  ingress := Child.ingress.isReady (some (g.child .ingress))

structure Heading (s : MemoryStore) (g : Goal key) : Prop where
  server : ∃ srv, s.object? .server key = some srv ∧ srv.fault? = none ∧
    (srv.bare = g.server.bare ∨ srv.fillDefaults.2 = true ∧ srv.filled.bare = g.server.bare)
  child : ∀ c w, c.wanted g.server = .ok w →
    c.kind.unversioned (c.fit key.space w (s.object? c.kind key)) = g.child c

def Filled (s : MemoryStore) (g : Goal key) : Prop :=
  ∃ srv, s.object? .server key = some srv ∧ srv.bare = g.server.bare

structure Reached (s : MemoryStore) (g : Goal key) : Prop where
  server : (s.object? .server key).map Kind.server.unversioned = some { g.server.bare with
    status := some (ServerStatus.report g.ready.phase g.ready.message g.ready g.server.bare.metadata.generation) }
  child : ∀ c : Child, (s.object? c.kind key).map c.kind.unversioned = some (g.child c)

theorem Reached.object?_eq {s t : MemoryStore} {g : Goal key} (hs : Reached s g) (ht : Reached t g) (k : Kind) :
    (s.object? k key).map k.unversioned = (t.object? k key).map k.unversioned := by
  cases k with
  | server => rw [hs.server, ht.server]
  | deployment => exact (hs.child .deployment).trans (ht.child .deployment).symm
  | service => exact (hs.child .service).trans (ht.child .service).symm
  | ingress => exact (hs.child .ingress).trans (ht.child .ingress).symm

theorem exists_goal {s : MemoryStore} {srv : Server} (hsrv : s.object? .server srv.key = some srv)
    (hv : srv.validate = .ok ()) (hq : srv.spec.QuantitiesValid) : ∃ g : Goal srv.key, Heading s g := by
  obtain ⟨goal, hkey, hf, hd, hgoal⟩ : ∃ goal : Server, goal.key = srv.key ∧ goal.fault? = none ∧
      goal.fillDefaults.2 = false ∧
      (srv.bare = goal.bare ∨ srv.fillDefaults.2 = true ∧ srv.filled.bare = goal.bare) := by
    cases hd : srv.fillDefaults.2 with
    | true => exact ⟨srv.filled, rfl, Server.filled_sound hv hq, srv.filled_closed, .inr ⟨rfl, rfl⟩⟩
    | false => exact ⟨srv, rfl, Server.fault?_eq_none hv hq, hd, .inl rfl⟩
  obtain ⟨w, hw⟩ := Classical.skolem.mp (Pass.wanted_of_sound hf hd)
  refine ⟨⟨goal, fun c => c.kind.unversioned (c.fit srv.key.space (w c) (s.object? c.kind srv.key)), hkey, hf, hd⟩,
    ⟨srv, hsrv, Server.fault?_eq_none hv hq, hgoal⟩, fun c w' hw' => ?_⟩
  cases (hw c).symm.trans hw'
  rfl

/-! ## One pass -/

section
variable {s t : MemoryStore} {g : Goal key}

theorem Heading.alike (h : Heading s g) (hts : Alike t s) : Heading t g := by
  obtain ⟨hserver, hchild⟩ := h
  refine ⟨?_, fun c w hw => ?_⟩
  · rw [hts.object?]; exact hserver
  · rw [hts.object?]; exact hchild c w hw

theorem Goal.wanted_of_bare (g : Goal key) {srv : Server} (hb : srv.bare = g.server.bare) :
    srv.key = key ∧ srv.space = key.space ∧ ∀ c : Child, ∃ w, c.wanted srv = .ok w ∧ c.wanted g.server = .ok w := by
  have hk : srv.key = key := (Server.key_of_bare hb).trans g.at_key
  refine ⟨hk, congrArg Key.space hk, fun c => ?_⟩
  obtain ⟨w, hw⟩ := Pass.wanted_of_sound g.sound g.closed c
  exact ⟨w, (Server.wanted_of_bare hb c).trans hw, hw⟩

/-- Settling children is a way to the goal, however many are settled. -/
theorem Heading.settleAll (h : Heading s g) {srv : Server} (hsrv : s.object? .server key = some srv)
    (hb : srv.bare = g.server.bare) {cs : List Child} (hn : cs.Nodup) :
    Heading (cs.foldl (MemoryStore.settle srv) s) g := by
  obtain ⟨hk, hspace, hwanted⟩ := g.wanted_of_bare hb
  refine ⟨⟨srv, ?_, (Server.fault?_of_bare hb).trans g.sound, .inl hb⟩, fun c w hw => ?_⟩
  · rw [MemoryStore.object?_settleAll_server]
    exact hsrv
  · by_cases hc : c ∈ cs
    · have hw' : c.wanted srv = .ok w := (Server.wanted_of_bare hb c).trans hw
      obtain ⟨v, hv⟩ := MemoryStore.object?_settleAll srv hw' cs s hn hc
      rw [hk, hspace] at hv
      rw [hv, c.fit_fit hw', Kind.unversioned_withVersion]
      exact h.child c w hw
    · have hne : ∀ d ∈ cs, c.kind ≠ d.kind := fun d hd e => hc (Child.kind_injective e ▸ hd)
      rw [MemoryStore.object?_settleAll_ne srv cs s (.inl hne)]
      exact h.child c w hw

theorem Heading.reported (h : Heading s g) (phase : Phase) (message : String) (r : Readiness) :
    Heading (s.reported key phase message r) g := by
  obtain ⟨⟨srv, hsrv, hf, hb⟩, hchild⟩ := h
  obtain ⟨srv', hsrv', hbare⟩ := MemoryStore.bare_reported key phase message r hsrv
  refine ⟨⟨srv', hsrv', (Server.fault?_of_bare hbare).trans hf, ?_⟩, fun c w hw => ?_⟩
  · exact hb.imp hbare.trans fun ⟨hd, hb⟩ =>
      ⟨(Server.fillDefaults_of_bare hbare).2.trans hd, (Server.filled_of_bare hbare).trans hb⟩
  · rw [MemoryStore.object?_reported_ne _ _ _ _ (.inl c.kind_ne_server)]
    exact hchild c w hw

theorem Heading.filled (h : Heading s g) {srv : Server} (hsrv : s.object? .server key = some srv)
    (hd : srv.fillDefaults.2 = true) : Heading (s.written .replace .server key srv.filled) g ∧
      Filled (s.written .replace .server key srv.filled) g := by
  obtain ⟨⟨srv', hsrv', _, hb⟩, hchild⟩ := h
  cases hsrv'.symm.trans hsrv
  rcases hb with hb | ⟨_, hb⟩
  · have := (Server.fillDefaults_of_bare hb).2.symm.trans hd
    rw [g.closed] at this
    cases this
  · obtain ⟨stored, hstored, hb⟩ : ∃ stored, (s.written .replace .server key srv.filled).object? .server key =
        some stored ∧ stored.bare = g.server.bare := ⟨_, MemoryStore.object?_written .., hb⟩
    have hsound : stored.fault? = none := (Server.fault?_of_bare hb).trans g.sound
    refine ⟨⟨⟨stored, hstored, hsound, .inl hb⟩, fun c w hw => ?_⟩, stored, hstored, hb⟩
    rw [MemoryStore.object?_written_ne _ _ _ _ _ (.inl c.kind_ne_server)]
    exact hchild c w hw

theorem Reached.of_settled (h : Heading s g) {srv : Server} (hsrv : s.object? .server key = some srv)
    (hb : srv.bare = g.server.bare) : Reached (Pass.settled srv s) g := by
  obtain ⟨rfl, hspace, hwanted⟩ := g.wanted_of_bare hb
  have hchild (c : Child) :
      ((Pass.settled srv s).object? c.kind srv.key).map c.kind.unversioned = some (g.child c) := by
    obtain ⟨w, hw, hw'⟩ := hwanted c
    obtain ⟨v, hv⟩ := Pass.child_settled srv s hw
    rw [hv, Option.map_some, Kind.unversioned_withVersion, hspace, h.child c w hw']
  have hready (c : Child) :
      c.isReady ((Pass.settled srv s).object? c.kind srv.key) = c.isReady (some (g.child c)) := by
    rw [← c.isReady_unversioned, hchild]
  have hlive : (Pass.settled srv s).live srv.key = g.ready := by
    simp only [MemoryStore.live, Goal.ready, hready .deployment, hready .service, hready .ingress]
  obtain ⟨stored, hstored, hbare⟩ := Pass.bare_settled srv s hsrv
  have hstatus := Pass.status_settled srv s hstored
  refine ⟨?_, hchild⟩
  rw [hlive] at hstatus
  rw [hstored, ← hb, ← hbare]
  exact congrArg (fun status => some { stored.bare with status }) hstatus

theorem Filled.alike (h : Filled s g) (hts : Alike t s) : Filled t g := by
  rw [Filled, hts.object?]
  exact h

theorem Reached.alike (h : Reached s g) (hts : Alike t s) : Reached t g := by
  obtain ⟨hserver, hchild⟩ := h
  refine ⟨?_, fun c => ?_⟩
  · rw [hts.object?]; exact hserver
  · rw [hts.object?]; exact hchild c

def Advances (s t : MemoryStore) (g : Goal key) (r : Except OperatorError Outcome) : Prop :=
  (r = .ok .requeueNow ∧ ¬ Filled s g ∧ Filled t g) ∨ (r = .ok .done ∧ Reached t g)

theorem Heading.of_ending (h : Heading s g) {srv : Server} (hsrv : s.object? .server key = some srv)
    {r : Except OperatorError Outcome} (he : Pass.Ending key s srv r t) :
    Heading t g ∧ (s.Reliable → Advances s t g r) := by
  obtain ⟨srv', hsrv', hf, hgoal⟩ := h.server
  cases hsrv'.symm.trans hsrv
  -- A server with nothing to fill in is the goal's own.
  have hbare (hd : srv.fillDefaults.2 = false) : srv.bare = g.server.bare :=
    hgoal.resolve_right fun ⟨hd', _⟩ => by rw [hd] at hd'; cases hd'
  cases he with
  | reported hfault | unreported hfault => rw [hf] at hfault; cases hfault
  | filled _ hd =>
    obtain ⟨hheading, hfilled⟩ := h.filled hsrv hd
    refine ⟨hheading, fun _ => .inl ⟨rfl, ?_, hfilled⟩⟩
    rintro ⟨srv', hsrv', hb⟩
    cases hsrv'.symm.trans hsrv
    have := (Server.fillDefaults_of_bare hb).2.symm.trans hd
    rw [g.closed] at this
    cases this
  | unfilled _ _ hg => exact ⟨h, fun hs => absurd hs hg.unreliable⟩
  | settled _ hd =>
    have hk := (g.wanted_of_bare (hbare hd)).1
    refine ⟨?_, fun _ => .inr ⟨rfl, .of_settled h hsrv (hbare hd)⟩⟩
    rw [Pass.settled, hk]
    exact (h.settleAll hsrv (hbare hd) (by decide)).reported ..
  | stopped _ hd hg hc =>
    have hn := (List.nodup_append.mp (hc ▸ (by decide : Child.all.Nodup))).1
    exact ⟨h.settleAll hsrv (hbare hd) hn, fun hs => absurd hs hg.unreliable⟩

theorem Heading.pass (h : Heading s g) : Heading (Pass.inMemory key s).state g ∧
    (s.Reliable → Advances s (Pass.inMemory key s).state g (Pass.inMemory key s).value) := by
  obtain ⟨srv, hsrv, _⟩ := h.server
  rcases pass_ended_of_stored hsrv with ⟨hp, hst, _⟩ | ⟨_, u, hu, ht⟩
  · rw [hst]
    exact ⟨h, fun hs => absurd (hs.permits _ _) hp⟩
  · obtain ⟨hheading, hadvance⟩ := h.of_ending hsrv hu
    refine ⟨hheading.alike ht, fun hs => (hadvance hs).imp ?_ ?_⟩
    · exact fun ⟨hr, hn, hf⟩ => ⟨hr, hn, hf.alike ht⟩
    · exact fun ⟨hr, hg⟩ => ⟨hr, hg.alike ht⟩

end

/-! ## Many passes -/

/-- The store after passes that were each refused calls as one of the tables says. -/
def disturbed (key : Key) : List (Table (String × Operation) Nat) → MemoryStore → MemoryStore
  | [], s => s
  | failures :: rest, s => disturbed key rest (Pass.inMemory key { s with failures }).state

theorem Heading.disturbed {g : Goal key} : ∀ (fs : List (Table (String × Operation) Nat)) {s : MemoryStore},
    Heading s g → Heading (disturbed key fs s) g
  | [], _, h => h
  | f :: fs, s, h => by
    have hf : Heading { s with failures := f } g := h.alike rfl
    exact Heading.disturbed fs hf.pass.1

/-- So many passes lead from one store to another: all but the last want another at once, the last is done. -/
inductive Settles (key : Key) : Nat → MemoryStore → MemoryStore → Prop
  | done {s : MemoryStore} (last : (Pass.inMemory key s).value = .ok .done) :
    Settles key 1 s (Pass.inMemory key s).state
  | requeued {n : Nat} {s t : MemoryStore} (first : (Pass.inMemory key s).value = .ok .requeueNow)
    (rest : Settles key n (Pass.inMemory key s).state t) : Settles key (n + 1) s t

theorem Heading.settles {s : MemoryStore} {g : Goal key} (h : Heading s g) (hs : s.Reliable) :
    ∃ n t, n ≤ 2 ∧ Settles key n s t ∧ Reached t g := by
  obtain ⟨h', hadvance⟩ := h.pass
  rcases hadvance hs with ⟨hr, _, hfilled⟩ | ⟨hr, hg⟩
  · rcases h'.pass.2 (hs.run _) with ⟨_, hn, _⟩ | ⟨hr', hg⟩
    · exact absurd hfilled hn
    · exact ⟨2, _, Nat.le_refl 2, .requeued hr (.done hr'), hg⟩
  · exact ⟨1, _, by decide, .done hr, hg⟩

/-- Whatever calls were refused in however many passes over a sound server: once none is refused any more,
two passes at most lead where they would have led at the start. -/
theorem retry_reaches_undisturbed_result {s : MemoryStore} {srv : Server}
    (hsrv : s.object? .server srv.key = some srv) (hv : srv.validate = .ok ()) (hq : srv.spec.QuantitiesValid)
    (fs : List (Table (String × Operation) Nat)) :
    ∃ n t m t₀, n ≤ 2 ∧ Settles srv.key n (disturbed srv.key fs s).clearFailures t ∧
      m ≤ 2 ∧ Settles srv.key m s.clearFailures t₀ ∧
      ∀ k : Kind, (t.object? k srv.key).map k.unversioned = (t₀.object? k srv.key).map k.unversioned := by
  obtain ⟨g, hg⟩ := exists_goal hsrv hv hq
  obtain ⟨n, t, hn, ht, hreached⟩ := ((hg.disturbed fs).alike (MemoryStore.clearFailures_alike _)).settles
    (MemoryStore.reliable_clearFailures _)
  obtain ⟨m, t₀, hm, ht₀, hreached₀⟩ := (hg.alike (MemoryStore.clearFailures_alike s)).settles
    (MemoryStore.reliable_clearFailures _)
  exact ⟨n, t, m, t₀, hn, ht, hm, ht₀, hreached.object?_eq hreached₀⟩

def unfilledServer : Server := { sampleServer with spec := { sampleServer.spec with replicas := none } }

def unfilledStore : MemoryStore := sampleStore.put .server unfilledServer.key unfilledServer

def sampleFailures : List (Table (String × Operation) Nat) :=
  [(∅ : Table ..).insert (Kind.server.name, .get) 0, (∅ : Table ..).insert (Kind.server.name, .replace) 0, ∅,
   (∅ : Table ..).insert (Kind.ingress.name, .create) 0, (∅ : Table ..).insert (Kind.server.name, .patchStatus) 0]

/-- In the sample the defaults are written, one child replaced and two created before a status is. -/
theorem retry_reaches_undisturbed_result_sample :
    (disturbed unfilledServer.key sampleFailures unfilledStore).writes.length = 4 ∧
      (disturbed unfilledServer.key sampleFailures unfilledStore).statusPatches = [] ∧
      ∃ n t m t₀, n ≤ 2 ∧ Settles unfilledServer.key n
          (disturbed unfilledServer.key sampleFailures unfilledStore).clearFailures t ∧
        m ≤ 2 ∧ Settles unfilledServer.key m unfilledStore.clearFailures t₀ ∧
        ∀ k : Kind, (t.object? k unfilledServer.key).map k.unversioned =
          (t₀.object? k unfilledServer.key).map k.unversioned := by
  have hsrv : unfilledStore.object? .server unfilledServer.key = some unfilledServer := rfl
  have hv : unfilledServer.validate = .ok () := rfl
  have hq : unfilledServer.spec.QuantitiesValid := by decide
  exact ⟨by decide, by decide, retry_reaches_undisturbed_result hsrv hv hq sampleFailures⟩

end ServerOperator
