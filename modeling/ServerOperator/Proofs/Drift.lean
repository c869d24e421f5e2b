import Mathlib.Data.List.Basic
import ServerOperator.Proofs.Transient
import ServerOperator.Proofs.Wiring

/-!
# Drift and its repair

A live child has drifted if one of its owned fields is not as the server asks for it. Merging changes an
object exactly if it has drifted, field by field and for each kind; so a pass over a complete and sound
server creates what is missing, replaces what has drifted, and leaves the rest alone.
-/

namespace ServerOperator

open MemoryStore (Alike)

/-! ## Entries and owners -/

def HasEntries (live wanted : Option (SortedMap String)) : Prop :=
  ∀ key value, wanted.bind (·.get? key) = some value → live.bind (·.get? key) = some value

/-- Every wanted owner is there, known by its uid. -/
def HasOwners (live wanted : Option (List OwnerReference)) : Prop :=
  ∀ owner ∈ wanted.getD [], ∃ o ∈ live.getD [], o.uid = owner.uid

namespace SortedMap

variable {β : Type}

theorem exists_get?_of_not_isEmpty {m : SortedMap β} (h : m.isEmpty = false) :
    ∃ key value, m.get? key = some value := by
  obtain ⟨entries, _⟩ := m
  cases entries with
  | nil => cases h
  | cons e rest => exact ⟨e.1, e.2, if_pos rfl⟩

theorem union_eq_left_iff {m n : SortedMap β} :
    m.union n = m ↔ ∀ key value, n.get? key = some value → m.get? key = some value := by
  constructor
  · intro h key value hn
    rw [← h, get?_union, hn]
    rfl
  · intro h
    refine ext_get? fun key => ?_
    rw [get?_union]
    cases hn : n.get? key with
    | none => rfl
    | some value => exact (h key value hn).symm

end SortedMap

theorem mergeEntries_eq_left_iff {live wanted : Option (SortedMap String)} :
    mergeEntries live wanted = live ↔ HasEntries live wanted := by
  cases wanted with
  | none =>
    refine iff_of_true rfl fun key value h => ?_
    cases h
  | some w =>
    cases hw : w.isEmpty with
    | true =>
      have hempty (key : String) : w.get? key = none :=
        Option.eq_none_iff_forall_ne_some.mpr fun value h => by
          rw [SortedMap.isEmpty_of_get? h] at hw
          cases hw
      have hmerge : mergeEntries live (some w) = live := by simp only [mergeEntries, hw, if_true]
      refine iff_of_true hmerge fun key value h => ?_
      rw [Option.bind_some, hempty] at h
      cases h
    | false =>
      have hmerge : mergeEntries live (some w) = some ((live.getD ∅).union w) := by
        simp only [mergeEntries, hw, Bool.false_eq_true, if_false]
      rw [hmerge]
      cases live with
      | none =>
        refine ⟨fun h => absurd h (Option.some_ne_none _), fun h => ?_⟩
        obtain ⟨key, value, hget⟩ := SortedMap.exists_get?_of_not_isEmpty hw
        cases h key value hget
      | some m => exact Option.some_inj.trans SortedMap.union_eq_left_iff

theorem mergeOwners_eq_left_iff {live wanted : Option (List OwnerReference)} :
    mergeOwners live wanted = live ↔ HasOwners live wanted := by
  match wanted with
  | none | some [] => exact iff_of_true rfl fun _ h => nomatch h
  | some (o :: owners) =>
    cases live with
    | none =>
      refine ⟨nofun, fun h => ?_⟩
      obtain ⟨_, hmem, _⟩ := h o (List.mem_cons_self ..)
      cases hmem
    | some l =>
      refine Option.some_inj.trans ⟨fun h p hp => ?_, foldl_addOwner_of_known⟩
      -- What is added is there afterwards, and afterwards is now.
      have hadded : ∃ x ∈ (o :: owners).foldl addOwner l, x.uid = p.uid := uid_mem_foldl_addOwner l p hp
      rwa [show (o :: owners).foldl addOwner l = l from h] at hadded

structure Metadata.UpToDate (live wanted : Metadata) : Prop where
  labels : HasEntries live.labels wanted.labels
  annotations : HasEntries live.annotations wanted.annotations
  owners : HasOwners live.ownerReferences wanted.ownerReferences

theorem Metadata.merge_eq_left_iff {live wanted : Metadata} : live.merge wanted = live ↔ live.UpToDate wanted := by
  constructor
  · intro h
    exact ⟨mergeEntries_eq_left_iff.mp (congrArg labels h), mergeEntries_eq_left_iff.mp (congrArg annotations h),
      mergeOwners_eq_left_iff.mp (congrArg ownerReferences h)⟩
  · rintro ⟨hl, ha, ho⟩
    rw [merge, mergeEntries_eq_left_iff.mpr hl, mergeEntries_eq_left_iff.mpr ha, mergeOwners_eq_left_iff.mpr ho]

/-! ## Levels -/

def HasLevel {α : Type} (R : α → α → Prop) (live wanted : Option α) : Prop :=
  ∀ w, wanted = some w → ∃ l, live = some l ∧ R l w

theorem mergeLevel_eq_left_iff {α : Type} {empty : α} {merge : α → α → α} {R : α → α → Prop}
    (h : ∀ {l w}, merge l w = l ↔ R l w) {live wanted : Option α} :
    (wanted.elim live fun w => some (merge (live.getD empty) w)) = live ↔ HasLevel R live wanted := by
  cases wanted with
  | none => exact iff_of_true rfl nofun
  | some w =>
    cases live with
    | none =>
      refine ⟨nofun, fun hl => ?_⟩
      obtain ⟨_, hnone, _⟩ := hl w rfl
      cases hnone
    | some l =>
      refine Option.some_inj.trans (h.trans ⟨fun hl => ?_, fun hl => ?_⟩)
      · rintro _ ⟨⟩
        exact ⟨l, rfl, hl⟩
      · obtain ⟨_, ⟨⟩, hl⟩ := hl w rfl
        exact hl

/-! ## Deployments -/

def Deployment.podSpec? (d : Deployment) : Option PodSpec := d.spec.bind (·.template.spec)

def Deployment.containers (d : Deployment) : List Container := d.podSpec?.elim [] (·.containers)

structure Deployment.UpToDate (live wanted : Deployment) : Prop where
  metadata : live.metadata.UpToDate wanted.metadata
  replicas : live.spec.bind (·.replicas) = wanted.spec.bind (·.replicas)
  podLabels : HasEntries (live.podMetadata?.bind (·.labels)) (wanted.podMetadata?.bind (·.labels))
  pullSecrets : live.podSpec?.bind (·.imagePullSecrets) = wanted.podSpec?.bind (·.imagePullSecrets)
  containers : ∀ v ∈ wanted.containers, ∃ c, live.container? v.name = some c ∧ c.Matches v

structure PodSpec.Carries (live wanted : PodSpec) : Prop where
  pullSecrets : live.imagePullSecrets = wanted.imagePullSecrets
  containers : HasContainers live.containers wanted.containers

structure PodTemplate.Carries (live wanted : PodTemplate) : Prop where
  metadata : HasLevel (fun l w => HasEntries l.labels w.labels) live.metadata wanted.metadata
  spec : HasLevel PodSpec.Carries live.spec wanted.spec

structure DeploymentSpec.Carries (live wanted : DeploymentSpec) : Prop where
  replicas : live.replicas = wanted.replicas
  template : live.template.Carries wanted.template

theorem PodSpec.merge_eq_left_iff {live w : PodSpec} : live.merge w = live ↔ live.Carries w := by
  constructor
  · intro h
    exact ⟨(congrArg imagePullSecrets h).symm, foldl_mergeContainer_eq_left_iff.mp (congrArg containers h)⟩
  · rintro ⟨hs, hc⟩
    rw [merge, foldl_mergeContainer_eq_left_iff.mpr hc, ← hs]

theorem PodTemplate.mergeMetadata_eq_left_iff {live wanted : Option Metadata} : mergeMetadata live wanted = live ↔
    HasLevel (fun l w => HasEntries l.labels w.labels) live wanted := by
  have hlabels {l w : Metadata} :
      { l with labels := mergeEntries l.labels w.labels } = l ↔ HasEntries l.labels w.labels := by
    rw [← mergeEntries_eq_left_iff]
    exact ⟨congrArg Metadata.labels, fun e => by rw [e]⟩
  exact @mergeLevel_eq_left_iff _ {} (fun l w : Metadata => { l with labels := mergeEntries l.labels w.labels })
    _ hlabels _ _

theorem PodTemplate.merge_eq_left_iff {live w : PodTemplate} : live.merge w = live ↔ live.Carries w := by
  constructor
  · intro h
    exact ⟨mergeMetadata_eq_left_iff.mp (congrArg metadata h),
      (mergeLevel_eq_left_iff PodSpec.merge_eq_left_iff).mp (congrArg spec h)⟩
  · rintro ⟨hm, hs⟩
    rw [merge, mergeMetadata_eq_left_iff.mpr hm, (mergeLevel_eq_left_iff PodSpec.merge_eq_left_iff).mpr hs]

theorem DeploymentSpec.merge_eq_left_iff {live w : DeploymentSpec} : live.merge w = live ↔ live.Carries w := by
  constructor
  · intro h
    exact ⟨(congrArg replicas h).symm, PodTemplate.merge_eq_left_iff.mp (congrArg template h)⟩
  · rintro ⟨hr, ht⟩
    rw [merge, PodTemplate.merge_eq_left_iff.mpr ht, ← hr]

theorem Deployment.merge_eq_left_iff {srv : Server} {live w : Deployment} (hw : srv.deployment = .ok w) :
    live.merge w = live ↔ live.UpToDate w := by
  obtain ⟨container, rfl⟩ := Server.deployment_eq_ok hw
  constructor
  · intro h
    refine ⟨Metadata.merge_eq_left_iff.mp (congrArg metadata h), ?_, ?_, ?_, fun v hv => ?_⟩
    -- The live Deployment is the merge of itself, and there each field can be read off.
    all_goals rw [← h]
    · rfl
    · show HasEntries (mergeEntries _ (some (childLabels srv.name))) (some (childLabels srv.name))
      exact mergeEntries_eq_left_iff.mp (mergeEntries_stable _ _)
    · rfl
    · cases List.mem_singleton.mp hv
      show ∃ c, (mergeContainer _ container).find? _ = some c ∧ _
      exact mergeContainer_eq_left_iff.mp (mergeContainer_stable _ _)
  · rintro ⟨hm, hr, hl, hs, hc⟩
    -- Each optional level is there, because a field below it is as wanted, and what is wanted is not missing.
    obtain ⟨spec, hspec, _⟩ := Option.bind_eq_some_iff.mp hr
    obtain ⟨c, hcontainer, hmatch⟩ := hc container (List.mem_singleton.mpr rfl)
    obtain ⟨pod, hpod, hfind⟩ := Option.bind_eq_some_iff.mp hcontainer
    obtain ⟨labels, hlabels, _⟩ := Option.bind_eq_some_iff.mp (hl appLabel srv.name (get?_childLabels srv.name).1)
    obtain ⟨m, hpodMetadata, _⟩ := Option.bind_eq_some_iff.mp hlabels
    obtain ⟨metadata, _, status⟩ := live
    cases hspec
    have hmerge : spec.merge (srv.deploymentSpec container) = spec := by
      refine DeploymentSpec.merge_eq_left_iff.mpr ⟨hr, ?_, ?_⟩
      · rintro _ ⟨⟩
        rw [hpodMetadata] at hl
        exact ⟨m, hpodMetadata, hl⟩
      · rintro _ ⟨⟩
        have hs : spec.template.spec.bind (·.imagePullSecrets) = unlessEmpty srv.spec.imagePullSecrets := hs
        rw [show spec.template.spec = some pod from hpod] at hs
        exact ⟨pod, hpod, hs, hasContainers_singleton.mpr ⟨c, hfind, hmatch⟩⟩
    rw [merge, Metadata.merge_eq_left_iff.mpr hm]
    exact congrArg (fun spec => Deployment.mk metadata (some spec) status) hmerge

/-! ## Services and Ingresses -/

structure Service.UpToDate (live wanted : Service) : Prop where
  metadata : live.metadata.UpToDate wanted.metadata
  type : live.spec.bind (·.type) = wanted.spec.bind (·.type)
  selector : live.spec.bind (·.selector) = wanted.spec.bind (·.selector)
  ports : live.spec.bind (·.ports) = wanted.spec.bind (·.ports)

theorem ServiceSpec.merge_eq_left_iff {live w : ServiceSpec} : live.merge w = live ↔
    live.type = w.type ∧ live.selector = w.selector ∧ live.ports = w.ports := by
  constructor
  · intro h
    exact ⟨(congrArg type h).symm, (congrArg selector h).symm, (congrArg ports h).symm⟩
  · rintro ⟨ht, hs, hp⟩
    rw [merge, ← ht, ← hs, ← hp]

theorem Service.merge_eq_left_iff {srv : Server} {live : Service} :
    live.merge srv.service = live ↔ live.UpToDate srv.service := by
  constructor
  · intro h
    refine ⟨Metadata.merge_eq_left_iff.mp (congrArg metadata h), ?_, ?_, ?_⟩
    all_goals
      rw [← h]
      rfl
  · rintro ⟨hm, ht, hs, hp⟩
    obtain ⟨spec, hspec, _⟩ := Option.bind_eq_some_iff.mp ht
    obtain ⟨metadata, _, status⟩ := live
    cases hspec
    have hmerge : spec.merge srv.serviceSpec = spec := ServiceSpec.merge_eq_left_iff.mpr ⟨ht, hs, hp⟩
    rw [merge, Metadata.merge_eq_left_iff.mpr hm]
    exact congrArg (fun spec => Service.mk metadata (some spec) status) hmerge

structure Ingress.UpToDate (live wanted : Ingress) : Prop where
  metadata : live.metadata.UpToDate wanted.metadata
  ingressClass : live.spec.bind (·.ingressClassName) = wanted.spec.bind (·.ingressClassName)
  rules : live.spec.bind (·.rules) = wanted.spec.bind (·.rules)

theorem IngressSpec.merge_eq_left_iff {live w : IngressSpec} : live.merge w = live ↔
    live.ingressClassName = w.ingressClassName ∧ live.rules = w.rules := by
  constructor
  · intro h
    exact ⟨(congrArg ingressClassName h).symm, (congrArg rules h).symm⟩
  · rintro ⟨hc, hr⟩
    rw [merge, ← hc, ← hr]

theorem Ingress.merge_eq_left_iff {srv : Server} {live : Ingress} :
    live.merge srv.ingress = live ↔ live.UpToDate srv.ingress := by
  constructor
  · intro h
    refine ⟨Metadata.merge_eq_left_iff.mp (congrArg metadata h), ?_, ?_⟩
    all_goals
      rw [← h]
      rfl
  · rintro ⟨hm, hc, hr⟩
    obtain ⟨spec, hspec, _⟩ := Option.bind_eq_some_iff.mp hc
    obtain ⟨metadata, _, status⟩ := live
    cases hspec
    have hmerge : spec.merge srv.ingressSpec = spec := IngressSpec.merge_eq_left_iff.mpr ⟨hc, hr⟩
    rw [merge, Metadata.merge_eq_left_iff.mpr hm]
    exact congrArg (fun spec => Ingress.mk metadata (some spec) status) hmerge

/-! ## Children -/

namespace Child

/-- Every owned field of the live object is as wanted; an object that is not up to date has drifted. -/
def UpToDate : (c : Child) → (live wanted : c.kind.Object) → Prop
  | deployment, live, wanted => Deployment.UpToDate live wanted
  | service, live, wanted => Service.UpToDate live wanted
  | ingress, live, wanted => Ingress.UpToDate live wanted

theorem merge_eq_left_iff {c : Child} {srv : Server} {live w : c.kind.Object} (hw : c.wanted srv = .ok w) :
    c.merge live w = live ↔ c.UpToDate live w := by
  cases c with
  | deployment => exact Deployment.merge_eq_left_iff hw
  | service =>
    cases hw
    exact Service.merge_eq_left_iff
  | ingress =>
    cases hw
    exact Ingress.merge_eq_left_iff

inductive Repair (c : Child) (space : String) (wanted : c.kind.Object) :
    Option Operation → (before after : Option c.kind.Object) → Prop
  | create (version : Option String) : Repair c space wanted (some .create) none
      (some (c.kind.withVersion (c.kind.inSpace wanted space) version))
  | replace {live : c.kind.Object} (drifted : ¬ c.UpToDate live wanted) (version : Option String) :
    Repair c space wanted (some .replace) (some live) (some (c.kind.withVersion (c.merge live wanted) version))
  | leave {live : c.kind.Object} (upToDate : c.UpToDate live wanted) :
    Repair c space wanted none (some live) (some live)

end Child

def Server.repairs (srv : Server) (cs : List Child) (op : Child → Option Operation) : List WriteRecord :=
  cs.filterMap fun c => (op c).map (⟨·, c.kind, srv.name⟩)

/-! ## The pass -/

namespace MemoryStore

variable {srv : Server}

theorem repair_settle {c : Child} {w : c.kind.Object} (hw : c.wanted srv = .ok w) (s : MemoryStore) : ∃ op,
    c.Repair srv.space w op (s.object? c.kind srv.key) ((s.settle srv c).object? c.kind srv.key) ∧
      (s.settle srv c).writes = s.writes ++ (op.map (⟨·, c.kind, srv.name⟩ : Operation → WriteRecord)).toList := by
  have hsettle : s.settle srv c =
      if s.object? c.kind srv.key = some (c.fit srv.space w (s.object? c.kind srv.key)) then s
      else s.written (if (s.object? c.kind srv.key).isSome then .replace else .create) c.kind srv.key
        (c.fit srv.space w (s.object? c.kind srv.key)) := by
    simp only [settle, hw]
  cases hlive : s.object? c.kind srv.key with
  | none =>
    rw [hlive, if_neg (Option.some_ne_none _).symm] at hsettle
    refine ⟨some .create, ?_, ?_⟩ <;> rw [hsettle]
    · rw [object?_written]
      exact .create _
    · exact written_writes ..
  | some live =>
    rw [hlive] at hsettle
    by_cases h : c.merge live w = live
    · have hfit : some live = some (c.fit srv.space w (some live)) := congrArg some h.symm
      rw [if_pos hfit] at hsettle
      refine ⟨none, ?_, ?_⟩ <;> rw [hsettle]
      · rw [hlive]
        exact .leave ((c.merge_eq_left_iff hw).mp h)
      · exact (List.append_nil _).symm
    · have hfit : some live ≠ some (c.fit srv.space w (some live)) := fun e => h (Option.some.inj e).symm
      rw [if_neg hfit] at hsettle
      refine ⟨some .replace, ?_, ?_⟩ <;> rw [hsettle]
      · rw [object?_written]
        exact .replace (mt (c.merge_eq_left_iff hw).mpr h) _
      · exact written_writes ..

theorem repair_settleAll {w : (c : Child) → c.kind.Object} (hw : ∀ c : Child, c.wanted srv = .ok (w c)) :
    ∀ (cs : List Child) (s : MemoryStore), cs.Nodup → ∃ op : Child → Option Operation,
      (∀ c ∈ cs, c.Repair srv.space (w c) (op c) (s.object? c.kind srv.key)
        ((cs.foldl (settle srv) s).object? c.kind srv.key)) ∧
      (cs.foldl (settle srv) s).writes = s.writes ++ srv.repairs cs op
  | [], s, _ => ⟨fun _ => none, nofun, (List.append_nil _).symm⟩
  | c :: cs, s, hn => by
    obtain ⟨hc, hn⟩ := List.nodup_cons.mp hn
    obtain ⟨op, hop, hwrites⟩ := repair_settle (hw c) s
    obtain ⟨ops, hops, hwrites'⟩ := repair_settleAll hw cs (s.settle srv c) hn
    -- Settling one child is not seen by another, so what is done about each is decided by what was there at first.
    have hother {d : Child} (hd : d ∈ cs) : d ≠ c := fun e => hc (e ▸ hd)
    refine ⟨Function.update ops c op, fun d hd => ?_, ?_⟩
    · rw [List.foldl_cons]
      rcases List.mem_cons.mp hd with rfl | hd
      · have hrest : ∀ e ∈ cs, d.kind ≠ e.kind := fun e he h => hother he (Child.kind_injective h).symm
        rw [Function.update_self, object?_settleAll_ne srv cs _ (.inl hrest)]
        exact hop
      · have hkind : d.kind ≠ c.kind := fun h => hother hd (Child.kind_injective h)
        rw [Function.update_of_ne (hother hd), ← object?_settle_ne srv s c (.inl hkind)]
        exact hops d hd
    · have hrest : srv.repairs cs (Function.update ops c op) = srv.repairs cs ops :=
        List.filterMap_congr fun d hd => by rw [Function.update_of_ne (hother hd)]
      rw [List.foldl_cons, hwrites', hwrites, List.append_assoc, ← hrest]
      cases op <;> simp [Server.repairs]

end MemoryStore

/-- The pass of a complete and sound server on a store that refuses nothing: it creates exactly the children
that are missing, replaces exactly those that have drifted, in their order, and writes nothing else but the
status of the server. -/
theorem drift_repair_is_exact {s : MemoryStore} (hs : s.Reliable) {srv : Server}
    (hsrv : s.object? .server srv.key = some srv) (hv : srv.validate = .ok ()) (hq : srv.spec.QuantitiesValid)
    (hd : srv.fillDefaults.1 = srv) :
    ∃ (w : (c : Child) → c.kind.Object) (op : Child → Option Operation),
      let t := (Pass.inMemory srv.key s).state
      (Pass.inMemory srv.key s).value = .ok .done ∧ (∀ c : Child, c.wanted srv = .ok (w c)) ∧
      (∀ c : Child, c.Repair srv.space (w c) (op c) (s.object? c.kind srv.key) (t.object? c.kind srv.key)) ∧
      t.writes = s.writes ++ srv.repairs Child.all op ∧
      (∃ stored : Server, t.object? .server srv.key = some stored ∧ stored.bare = srv.bare) ∧
      ∀ k key, key ≠ srv.key → t.object? k key = s.object? k key := by
  have hf := Server.fault?_eq_none hv hq
  have hd' := Server.fillDefaults_eq_self_iff.mp hd
  obtain ⟨w, hw⟩ := Classical.skolem.mp (Pass.wanted_of_sound hf hd')
  obtain ⟨hr, ht⟩ := settled_of_reliable hsrv hs hf hd'
  obtain ⟨op, hop, hwrites⟩ := MemoryStore.repair_settleAll hw Child.all s (by decide)
  obtain ⟨m, hm, he⟩ := Pass.exists_settled srv s
  refine ⟨w, op, hr, hw, fun c => ?_, ?_, ?_, fun k key hkey => ?_⟩
  · rw [ht.object?, he, MemoryStore.object?_reported_ne _ _ _ _ (.inl c.kind_ne_server), hm]
    exact hop c (by cases c <;> decide)
  · rw [ht.writes, he, MemoryStore.reported_writes, hm, hwrites]
  · obtain ⟨stored, hstored, hb⟩ := Pass.bare_settled srv s hsrv
    exact ⟨stored, (ht.object? ..).trans hstored, hb⟩
  · rw [ht.object?, he, MemoryStore.object?_reported_ne _ _ _ _ (.inr hkey), hm,
      MemoryStore.object?_settleAll_ne srv Child.all s (.inr hkey)]

def driftedStore : MemoryStore :=
  sampleStore.put .service sampleServer.key (Kind.service.inSpace sampleServer.service sampleServer.space)

/-- In the sample the Deployment has drifted, the Ingress is missing, and the Service stays as it is. -/
theorem drift_repair_is_exact_sample :
    ((Pass.inMemory sampleServer.key driftedStore).state.writes.map (·.text) =
      ["replace Deployment search", "create Ingress search"]) ∧
    ∃ w op, Child.service.Repair sampleServer.space w op
        (driftedStore.object? .service sampleServer.key)
        ((Pass.inMemory sampleServer.key driftedStore).state.object? .service sampleServer.key) := by
  have hs : driftedStore.Reliable := MemoryStore.reliable_clearFailures driftedStore
  have hsrv : driftedStore.object? .server sampleServer.key = some sampleServer := rfl
  have hv : sampleServer.validate = .ok () := rfl
  have hq : sampleServer.spec.QuantitiesValid := by decide
  have hd : sampleServer.fillDefaults.1 = sampleServer := rfl
  obtain ⟨w, op, _, _, hop, _⟩ := drift_repair_is_exact hs hsrv hv hq hd
  exact ⟨by decide, w .service, op .service, hop .service⟩

end ServerOperator
