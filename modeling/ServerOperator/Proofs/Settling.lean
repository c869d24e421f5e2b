import ServerOperator.Pass
import ServerOperator.Proofs.Faults
import ServerOperator.Proofs.Refusal

/-!
# What a pass makes of a store

Where nothing is refused, a child that is applied ends up as `fit` has it, and a status that is reported
stands at the server. Both are functions of the store (`settle`, `reported`) that touch one object, and
doing either twice does no more than doing it once.
-/

namespace ServerOperator

/-! ## The object that a child is brought to -/

namespace Child

theorem kind_ne_server (c : Child) : c.kind ≠ .server := by cases c <;> decide

theorem kind_injective {c d : Child} (h : c.kind = d.kind) : c = d := by
  revert h; cases c <;> cases d <;> decide

variable (c : Child)

def fit (space : String) (wanted : c.kind.Object) : Option c.kind.Object → c.kind.Object
  | none => c.kind.inSpace wanted space
  | some live => c.merge live wanted

theorem merge_withVersion (live wanted : c.kind.Object) (v : Option String) :
    c.merge (c.kind.withVersion live v) wanted = c.kind.withVersion (c.merge live wanted) v := by
  cases c <;> rfl

theorem metadata_of_wanted {srv : Server} {w : c.kind.Object} (hw : c.wanted srv = .ok w) :
    (c.kind.metadata w).name = some srv.name := by
  cases c with
  | deployment => obtain ⟨_, rfl⟩ := Server.deployment_eq_ok hw; rfl
  | service | ingress => cases hw; rfl

/-- An object created for a server needs no merging. -/
theorem merge_inSpace {srv : Server} {w : c.kind.Object} (hw : c.wanted srv = .ok w) (space : String) :
    c.merge (c.kind.inSpace w space) w = c.kind.inSpace w space := by
  cases c with
  | deployment =>
    obtain ⟨container, rfl⟩ := Server.deployment_eq_ok hw
    simp [merge, Deployment.merge, Kind.inSpace, Kind.withMetadata, Kind.metadata, Metadata.merge, mergeEntries_self,
      mergeOwners_self, DeploymentSpec.merge, PodTemplate.merge, PodTemplate.mergeMetadata, PodSpec.merge,
      Server.deploymentSpec, mergeContainer]
  | service =>
    cases hw
    simp [merge, Service.merge, Kind.inSpace, Kind.withMetadata, Kind.metadata, Metadata.merge, mergeEntries_self,
      mergeOwners_self, ServiceSpec.merge, Server.service]
  | ingress =>
    cases hw
    simp [merge, Ingress.merge, Kind.inSpace, Kind.withMetadata, Kind.metadata, Metadata.merge, mergeEntries_self,
      mergeOwners_self, IngressSpec.merge, Server.ingress]

theorem merge_fit {srv : Server} {w : c.kind.Object} (hw : c.wanted srv = .ok w) (space : String)
    (live : Option c.kind.Object) : c.merge (c.fit space w live) w = c.fit space w live := by
  cases live with
  | none => exact c.merge_inSpace hw space
  | some live => exact c.merge_merged live w

theorem isReady_unversioned (o : Option c.kind.Object) : c.isReady (o.map c.kind.unversioned) = c.isReady o := by
  cases c <;> cases o <;> rfl

/-- Fitting what was fitted before leaves it as it is, whatever version it has got since. -/
theorem fit_fit {srv : Server} {w : c.kind.Object} (hw : c.wanted srv = .ok w) (space : String)
    (live : Option c.kind.Object) (v : Option String) :
    c.fit space w (some (c.kind.withVersion (c.fit space w live) v)) = c.kind.withVersion (c.fit space w live) v := by
  rw [fit, merge_withVersion, c.merge_fit hw]

end Child

/-! ## Servers without a status -/

namespace Server

/-- A server without its version and its status, which decide nothing of what it asks for. -/
def bare (s : Server) : Server :=
  { s with metadata := { s.metadata with resourceVersion := none }, status := none }

section
variable (s : Server)

theorem bare_key : s.bare.key = s.key := rfl
theorem bare_validate : s.bare.validate = s.validate := rfl
theorem bare_fillDefaults : s.bare.fillDefaults = (s.fillDefaults.1.bare, s.fillDefaults.2) := rfl
theorem bare_deployment : s.bare.deployment = s.deployment := rfl

theorem bare_fault? : s.bare.fault? = s.fault? := by
  simp only [fault?, bare_validate, bare_fillDefaults, bare_deployment]
  rfl

theorem bare_wanted (c : Child) : c.wanted s.bare = c.wanted s := by
  cases c with
  | deployment => exact s.bare_deployment
  | service | ingress => rfl

end

section
variable {a b : Server} (h : a.bare = b.bare)
include h

theorem key_of_bare : a.key = b.key := by rw [← bare_key, h, bare_key]
theorem fault?_of_bare : a.fault? = b.fault? := by rw [← bare_fault?, h, bare_fault?]
theorem wanted_of_bare (c : Child) : c.wanted a = c.wanted b := by rw [← bare_wanted, h, bare_wanted]

theorem fillDefaults_of_bare : a.fillDefaults.1.bare = b.fillDefaults.1.bare ∧ a.fillDefaults.2 = b.fillDefaults.2 := by
  have e := congrArg fillDefaults h
  rw [bare_fillDefaults, bare_fillDefaults] at e
  exact Prod.ext_iff.mp e

end

end Server

namespace MemoryStore

theorem retain_merge (c : Child) (live wanted : c.kind.Object) :
    retain c.kind live (c.merge live wanted) = c.merge live wanted := by
  cases c <;> rfl

/-! ## Settling a child -/

def settle (srv : Server) (s : MemoryStore) (c : Child) : MemoryStore :=
  match c.wanted srv with
  | .error _ => s
  | .ok w =>
    let live := s.object? c.kind srv.key
    let next := c.fit srv.space w live
    if live = some next then s
    else s.written (if live.isSome then .replace else .create) c.kind srv.key next

theorem Alike.settle {s t : MemoryStore} (h : Alike s t) (srv : Server) (c : Child) :
    Alike (s.settle srv c) (t.settle srv c) := by
  unfold MemoryStore.settle
  rw [h.object?]
  cases c.wanted srv with
  | error e => exact h
  | ok w =>
    dsimp only
    split
    · exact h
    · exact h.written ..

theorem Alike.settleAll {s t : MemoryStore} (h : Alike s t) (srv : Server) (cs : List Child) :
    Alike (cs.foldl (MemoryStore.settle srv) s) (cs.foldl (MemoryStore.settle srv) t) := by
  induction cs generalizing s t with
  | nil => exact h
  | cons c cs ih => exact ih (h.settle srv c)

section
variable (srv : Server) (s : MemoryStore) (c : Child)

theorem object?_settle {w : c.kind.Object} (hw : c.wanted srv = .ok w) : ∃ v,
    (s.settle srv c).object? c.kind srv.key =
      some (c.kind.withVersion (c.fit srv.space w (s.object? c.kind srv.key)) v) := by
  simp only [settle, hw]
  split
  · next h =>
    refine ⟨(c.kind.metadata (c.fit srv.space w (s.object? c.kind srv.key))).resourceVersion, ?_⟩
    rw [Kind.withVersion_self]
    exact h
  · exact ⟨_, object?_written ..⟩

/-- Settling a child costs one write or none. -/
theorem settle_cases : s.settle srv c = s ∨ ∃ op o, s.settle srv c = s.written op c.kind srv.key o := by
  unfold settle
  cases c.wanted srv with
  | error e => exact .inl rfl
  | ok w =>
    dsimp only
    split
    · exact .inl rfl
    · exact .inr ⟨_, _, rfl⟩

theorem object?_settle_ne {k : Kind} {key : Key} (h : k ≠ c.kind ∨ key ≠ srv.key) :
    (s.settle srv c).object? k key = s.object? k key := by
  rcases settle_cases srv s c with e | ⟨op, o, e⟩ <;> rw [e]
  exact object?_written_ne _ _ _ _ _ h

theorem settle_servers : (s.settle srv c).servers = s.servers := by
  rcases settle_cases srv s c with e | ⟨op, o, e⟩ <;> rw [e]
  exact written_servers _ _ _ _ _ c.kind_ne_server

theorem settle_statusPatches : (s.settle srv c).statusPatches = s.statusPatches := by
  rcases settle_cases srv s c with e | ⟨op, o, e⟩ <;> rw [e]
  exact written_statusPatches ..

end

/-! ## Settling several -/

section
variable (srv : Server) (s : MemoryStore)

theorem object?_settleAll_ne {k : Kind} {key : Key} : ∀ (cs : List Child) (s : MemoryStore),
    ((∀ c ∈ cs, k ≠ c.kind) ∨ key ≠ srv.key) → (cs.foldl (settle srv) s).object? k key = s.object? k key
  | [], _, _ => rfl
  | c :: cs, s, h => by
    rw [List.foldl_cons, object?_settleAll_ne cs _ (h.imp_left fun h d hd => h d (List.mem_cons_of_mem _ hd))]
    exact object?_settle_ne srv s c (h.imp_left fun h => h c (List.mem_cons_self ..))

theorem object?_settleAll {c : Child} {w : c.kind.Object} (hw : c.wanted srv = .ok w) :
    ∀ (cs : List Child) (s : MemoryStore), cs.Nodup → c ∈ cs → ∃ v,
      (cs.foldl (settle srv) s).object? c.kind srv.key =
        some (c.kind.withVersion (c.fit srv.space w (s.object? c.kind srv.key)) v)
  | d :: cs, s, hn, hc => by
    obtain ⟨hd, hn⟩ := List.nodup_cons.mp hn
    rw [List.foldl_cons]
    by_cases e : c = d
    · subst e
      rw [object?_settleAll_ne srv cs _ (.inl fun b hb h => hd (by rwa [Child.kind_injective h]))]
      exact object?_settle srv s c hw
    · have hne : c.kind ≠ d.kind := fun h => e (Child.kind_injective h)
      rw [← object?_settle_ne srv s d (.inl hne)]
      exact object?_settleAll hw cs _ hn ((List.mem_cons.mp hc).resolve_left e)

theorem settleAll_servers (cs : List Child) : (cs.foldl (settle srv) s).servers = s.servers := by
  induction cs generalizing s with
  | nil => rfl
  | cons c cs ih => rw [List.foldl_cons, ih, settle_servers]

theorem object?_settleAll_server (cs : List Child) (key : Key) :
    (cs.foldl (settle srv) s).object? .server key = s.object? .server key :=
  object?_settleAll_ne srv cs s (.inl fun c _ => c.kind_ne_server.symm)

theorem settleAll_statusPatches (cs : List Child) : (cs.foldl (settle srv) s).statusPatches = s.statusPatches := by
  induction cs generalizing s with
  | nil => rfl
  | cons c cs ih => rw [List.foldl_cons, ih, settle_statusPatches]

end

/-! ## Reporting a status -/

def live (s : MemoryStore) (key : Key) : Readiness where
  deployment := Child.deployment.isReady (s.object? .deployment key)
  service := Child.service.isReady (s.object? .service key)
  ingress := Child.ingress.isReady (s.object? .ingress key)

def reported (s : MemoryStore) (key : Key) (phase : Phase) (message : String) (r : Readiness) : MemoryStore :=
  match s.object? .server key with
  | none => s
  | some (latest : Server) =>
    let status := ServerStatus.report phase message r latest.metadata.generation
    if latest.status = some status then s else s.patched key latest status

theorem Alike.live {s t : MemoryStore} (h : Alike s t) (key : Key) : s.live key = t.live key := by
  simp only [MemoryStore.live, h.object?]

section
variable {s t : MemoryStore} (key : Key) (phase : Phase) (message : String) (r : Readiness)

theorem Alike.reported (h : Alike s t) : Alike (s.reported key phase message r) (t.reported key phase message r) := by
  unfold MemoryStore.reported
  rw [h.object?]
  split
  · exact h
  · dsimp only
    split
    · exact h
    · exact h.patched ..

/-- Reporting changes nothing, or the status of one server. -/
theorem reported_cases : s.reported key phase message r = s ∨ ∃ latest : Server,
    s.object? .server key = some latest ∧ s.reported key phase message r =
      s.patched key latest (ServerStatus.report phase message r latest.metadata.generation) := by
  unfold reported
  split
  · exact .inl rfl
  · next latest h =>
    dsimp only
    split
    · exact .inl rfl
    · exact .inr ⟨latest, h, rfl⟩

theorem object?_reported_ne {k : Kind} {key' : Key} (h : k ≠ .server ∨ key' ≠ key) :
    (s.reported key phase message r).object? k key' = s.object? k key' := by
  rcases reported_cases key phase message r (s := s) with e | ⟨latest, _, e⟩ <;> rw [e]
  exact object?_patched_ne _ _ _ _ h

/-- The server after a report: as before but for its version and the status that was reported. -/
theorem object?_reported {latest : Server} (h : s.object? .server key = some latest) : ∃ v,
    (s.reported key phase message r).object? .server key = some (Kind.server.withVersion
      { latest with status := some (ServerStatus.report phase message r latest.metadata.generation) } v) := by
  simp only [reported, h]
  split
  · next hs => exact ⟨latest.metadata.resourceVersion, by rw [h, ← hs]; rfl⟩
  · exact ⟨_, object?_patched ..⟩

theorem live_reported (key' : Key) : (s.reported key phase message r).live key' = s.live key' := by
  simp only [live, object?_reported_ne key phase message r (.inl (by decide : Kind.deployment ≠ .server)),
    object?_reported_ne key phase message r (.inl (by decide : Kind.service ≠ .server)),
    object?_reported_ne key phase message r (.inl (by decide : Kind.ingress ≠ .server))]

/-- After a report the server says what was reported. -/
theorem status_reported {latest : Server} (h : (s.reported key phase message r).object? .server key = some latest) :
    latest.status = some (ServerStatus.report phase message r latest.metadata.generation) := by
  cases hs : s.object? .server key with
  | none =>
    have : s.reported key phase message r = s := by simp only [reported, hs]
    rw [this, hs] at h
    cases h
  | some before =>
    obtain ⟨v, hv⟩ := object?_reported key phase message r hs
    rw [hv] at h
    cases h
    rfl

/-- A report changes no more of a server than its version and its status. -/
theorem bare_reported {key' : Key} {srv : Server} (h : s.object? .server key' = some srv) :
    ∃ srv', (s.reported key phase message r).object? .server key' = some srv' ∧ srv'.bare = srv.bare := by
  by_cases hk : key' = key
  · subst hk
    obtain ⟨v, hv⟩ := object?_reported key' phase message r h
    exact ⟨_, hv, rfl⟩
  · exact ⟨srv, (object?_reported_ne key phase message r (.inr hk)).trans h, rfl⟩

end

end MemoryStore

end ServerOperator
