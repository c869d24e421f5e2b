import ServerOperator.Proofs.Endings

/-!
# From the Ingress to the container

The three children of a server are made apart and merged into whatever is live, and still they fit
together: they agree on the name, the labels and the two ports. That a merge is stable says of a stored
child that its owned fields are the wanted ones; the rest is to compare what is wanted.
-/

namespace ServerOperator

/-! ## Labels -/

def Metadata.label? (m : Metadata) (key : String) : Option String := m.labels.bind (·.get? key)

theorem SortedMap.isEmpty_of_get? {β : Type} {m : SortedMap β} {key : String} {v : β} (h : m.get? key = some v) :
    m.isEmpty = false := by
  obtain ⟨entries, _⟩ := m
  cases entries with
  | nil => cases h
  | cons => rfl

theorem get?_mergeEntries {live : Option (SortedMap String)} {w : SortedMap String} {key v : String}
    (h : w.get? key = some v) : (mergeEntries live (some w)).bind (·.get? key) = some v := by
  simp [mergeEntries, SortedMap.isEmpty_of_get? h, h]

theorem get?_childLabels (name : String) : (childLabels name).get? appLabel = some name ∧
    (childLabels name).get? managedByLabel = some managedByValue := by
  have hne : managedByLabel ≠ appLabel := by decide
  simp [childLabels, hne]

structure Metadata.IsManaged (m : Metadata) (name : String) : Prop where
  app : m.label? "app" = some name
  managedBy : m.label? "app.kubernetes.io/managed-by" = some "mcp-runtime"

theorem isManaged_of_labels {m : Metadata} {live : Option (SortedMap String)} {name : String}
    (h : m.labels = mergeEntries live (some (childLabels name))) : m.IsManaged name := by
  obtain ⟨happ, hmanaged⟩ := get?_childLabels name
  constructor
  · rw [Metadata.label?, h]
    exact get?_mergeEntries happ
  · rw [Metadata.label?, h]
    exact get?_mergeEntries hmanaged

/-! ## Containers -/

theorem find?_mergeContainer (l : List Container) (w : Container) : ∃ c,
    (mergeContainer l w).find? (·.name == w.name) = some c ∧ c.image = w.image ∧ c.ports = w.ports := by
  induction l with
  | nil => exact ⟨w, by simp [mergeContainer], rfl, rfl⟩
  | cons c l ih =>
    by_cases h : c.name = w.name
    · refine ⟨{ c with image := w.image, ports := w.ports, env := w.env, resources := w.resources }, ?_, rfl, rfl⟩
      simp [mergeContainer, h]
    · obtain ⟨c', hc', hsame⟩ := ih
      refine ⟨c', ?_, hsame⟩
      simp [mergeContainer, h, hc']

theorem Server.deployment_eq {srv : Server} {d : Deployment} (h : srv.deployment = .ok d) : ∃ image resources,
    srv.spec.resolveImage = .ok image ∧ d = {
      metadata := srv.childMetadata
      spec := some (srv.deploymentSpec { srv.container image with resources }) } := by
  unfold deployment at h
  split at h
  · next c hc =>
    obtain ⟨image, himage, hc⟩ := Except.bind_eq_ok hc
    obtain ⟨resources, _, hc⟩ := Except.bind_eq_ok hc
    cases hc
    cases h
    exact ⟨image, some resources, himage, rfl⟩
  · cases h

/-! ## Ports -/

theorem ServerSpec.fillPort_unfilled_iff {d : Int32} {n : Option Int32} :
    (fillPort d n).2 = false ↔ ∃ m, n = some m ∧ m ≠ 0 := by
  cases n with
  | none => simp [fillPort]
  | some m => by_cases h : m = 0 <;> simp [fillPort, h]

theorem Server.ports_of_closed {srv : Server} (h : srv.fillDefaults.2 = false) :
    srv.spec.port.getD Default.port ≠ 0 ∧ srv.servicePort ≠ 0 := by
  have h' : (srv.spec.fillDefaults srv.name).2 = false := h
  rw [ServerSpec.fillDefaults_snd] at h'
  simp only [Bool.or_eq_false_iff] at h'
  obtain ⟨⟨⟨⟨⟨_, hp⟩, hs⟩, _⟩, _⟩, _⟩ := h'
  obtain ⟨p, hp, hp0⟩ := ServerSpec.fillPort_unfilled_iff.mp hp
  obtain ⟨q, hq, hq0⟩ := ServerSpec.fillPort_unfilled_iff.mp hs
  rw [servicePort, hp, hq]
  exact ⟨hp0, hq0⟩

/-! ## Children that are up to date -/

def Deployment.podMetadata? (d : Deployment) : Option Metadata := d.spec.bind (·.template.metadata)

def Deployment.container? (d : Deployment) (name : String) : Option Container :=
  (d.spec.bind (·.template.spec)).bind fun pod => pod.containers.find? (·.name == name)

section
variable {srv : Server}

theorem ingress_of_merged {o : Ingress} (h : o.merge srv.ingress = o) : o.metadata.IsManaged srv.name ∧
    ∃ rule, o.spec.bind (·.rules) = some [rule] ∧ rule.http = some [srv.ingressPath] := by
  -- What is stored is the merge of itself, and there the owned fields can be read off.
  rw [← h]
  exact ⟨isManaged_of_labels rfl, _, rfl, rfl⟩

theorem service_of_merged {o : Service} (h : o.merge srv.service = o) : o.metadata.IsManaged srv.name ∧
    o.spec.bind (·.selector) = some ((∅ : SortedMap String).insert appLabel srv.name) ∧
    ∃ port, o.spec.bind (·.ports) = some [port] ∧ port.port = srv.servicePort ∧
      port.targetPort = some (.number (srv.spec.port.getD Default.port)) := by
  rw [← h]
  exact ⟨isManaged_of_labels rfl, rfl, _, rfl, rfl, rfl⟩

theorem deployment_of_merged {w o : Deployment} (hw : srv.deployment = .ok w) (h : o.merge w = o) :
    o.metadata.IsManaged srv.name ∧ (∃ pod, o.podMetadata? = some pod ∧ pod.IsManaged srv.name) ∧
    ∃ image container port, srv.spec.resolveImage = .ok image ∧ o.container? srv.name = some container ∧
      container.image = some image ∧ container.ports = some [port] ∧
      port.containerPort = srv.spec.port.getD Default.port := by
  obtain ⟨image, resources, himage, rfl⟩ := Server.deployment_eq hw
  obtain ⟨container, hcontainer, hi, hp⟩ := find?_mergeContainer
    (((o.spec.getD {}).template.spec.getD {}).containers) { srv.container image with resources }
  rw [← h]
  exact ⟨isManaged_of_labels rfl, ⟨_, rfl, isManaged_of_labels rfl⟩, image, container, _, himage, hcontainer, hi, hp,
    rfl⟩

end

structure Wired (server : Server) (name : String) (ingress : Ingress) (service : Service) (deployment : Deployment) :
    Prop where
  backend : ∃ rule path port, ingress.spec.bind (·.rules) = some [rule] ∧ rule.http = some [path] ∧
    service.spec.bind (·.ports) = some [port] ∧
    path.backend.service = some { name := name, port := some { number := some port.port } }
  target : ∃ port container containerPort, service.spec.bind (·.ports) = some [port] ∧
    deployment.container? name = some container ∧ container.ports = some [containerPort] ∧
    port.targetPort = some (.number containerPort.containerPort) ∧
    port.port ≠ 0 ∧ containerPort.containerPort ≠ 0
  image : ∃ container image, deployment.container? name = some container ∧
    server.spec.resolveImage = .ok image ∧ container.image = some image
  selector : ∃ selector pod, service.spec.bind (·.selector) = some selector ∧ deployment.podMetadata? = some pod ∧
    ∀ key value, selector.get? key = some value → pod.label? key = some value
  managed : ingress.metadata.IsManaged name ∧ service.metadata.IsManaged name ∧ deployment.metadata.IsManaged name ∧
    ∃ pod, deployment.podMetadata? = some pod ∧ pod.IsManaged name

theorem wired_of_merged {srv : Server} {w : Deployment} {ingress : Ingress} {service : Service}
    {deployment : Deployment} (hd : srv.fillDefaults.2 = false) (hw : srv.deployment = .ok w)
    (hi : ingress.merge srv.ingress = ingress) (hs : service.merge srv.service = service)
    (hdep : deployment.merge w = deployment) : Wired srv srv.name ingress service deployment := by
  obtain ⟨hingress, rule, hrules, hhttp⟩ := ingress_of_merged hi
  obtain ⟨hservice, hselector, port, hports, hport, htarget⟩ := service_of_merged hs
  obtain ⟨hdeployment, ⟨pod, hpod, hlabels⟩, image, container, containerPort, himage, hcontainer, hci, hcp, hcport⟩ :=
    deployment_of_merged hw hdep
  obtain ⟨hnonzero, hnonzero'⟩ := Server.ports_of_closed hd
  constructor
  case backend =>
    refine ⟨rule, srv.ingressPath, port, hrules, hhttp, hports, ?_⟩
    rw [hport]
    rfl
  case target =>
    refine ⟨port, container, containerPort, hports, hcontainer, hcp, ?_, ?_, ?_⟩
    · rw [htarget, hcport]
    · rw [hport]
      exact hnonzero'
    · rw [hcport]
      exact hnonzero
  case image => exact ⟨container, image, hcontainer, himage, hci⟩
  case selector =>
    refine ⟨_, pod, hselector, hpod, fun key value h => ?_⟩
    rw [SortedMap.get?_insert] at h
    by_cases e : appLabel = key
    · rw [if_pos e] at h
      rw [← e, ← h]
      exact hlabels.app
    · rw [if_neg e] at h
      cases h
  case managed => exact ⟨hingress, hservice, hdeployment, pod, hpod, hlabels⟩

/-- A pass that is done leaves every child as its server asks for it. -/
theorem child_of_done {key : Key} {s : MemoryStore} {srv : Server} (hsrv : s.object? .server key = some srv)
    (hr : (Pass.inMemory key s).value = .ok .done) {c : Child} {w : c.kind.Object} (hw : c.wanted srv = .ok w) :
    ∃ o, (Pass.inMemory key s).state.object? c.kind srv.key = some o ∧ c.merge o w = o := by
  obtain ⟨_, _, ht⟩ := settled_of_done hsrv hr
  obtain ⟨v, hv⟩ := Pass.child_settled srv s hw
  exact ⟨_, (ht.object? ..).trans hv, c.fit_fit hw srv.space (s.object? c.kind srv.key) v⟩

/-- After a pass that is done, the objects stored for its server are wired, whatever was live before. -/
theorem done_objects_are_wired {key : Key} {s : MemoryStore} {srv : Server} {name : String}
    (hsrv : s.object? .server key = some srv) (hname : srv.metadata.name = some name)
    (hr : (Pass.inMemory key s).value = .ok .done) : ∃ stored ingress service deployment,
      let t := (Pass.inMemory key s).state
      t.object? .server key = some stored ∧
      t.object? .ingress ⟨srv.space, name⟩ = some ingress ∧
      t.object? .service ⟨srv.space, name⟩ = some service ∧
      t.object? .deployment ⟨srv.space, name⟩ = some deployment ∧
      Wired stored name ingress service deployment := by
  obtain ⟨hf, hd, ht⟩ := settled_of_done hsrv hr
  obtain ⟨stored, hstored, hb⟩ := Pass.bare_settled srv s hsrv
  obtain ⟨w, hw⟩ := Server.deployment_of_fault hf hd
  -- Only version and status of the stored server are new, so that it asks for the same children.
  have hwanted (c : Child) : c.wanted stored = c.wanted srv := Server.wanted_of_bare hb c
  obtain ⟨ingress, hi, hmi⟩ := child_of_done hsrv hr (hwanted .ingress).symm
  obtain ⟨service, hs, hms⟩ := child_of_done hsrv hr (hwanted .service).symm
  obtain ⟨deployment, hdep, hmd⟩ := child_of_done hsrv hr (c := .deployment) hw
  have hname' : srv.name = name := by
    rw [Server.name, Metadata.anyName, hname]
    rfl
  have hplace : srv.key = ⟨srv.space, name⟩ := congrArg (Key.mk srv.space) hname'
  rw [hplace] at hi hs hdep
  have hstoredName : stored.name = name := (congrArg Key.name (Server.key_of_bare hb)).trans hname'
  have hwired := wired_of_merged ((Server.fillDefaults_of_bare hb).2.trans hd) ((hwanted .deployment).trans hw)
    hmi hms hmd
  rw [hstoredName] at hwired
  exact ⟨stored, ingress, service, deployment, (ht.object? ..).trans hstored, hi, hs, hdep, hwired⟩

/-- In the sample the Deployment was edited by hand, and keeps a container of somebody else's. -/
theorem done_objects_are_wired_sample : ∃ stored ingress service deployment,
    (Pass.inMemory sampleServer.key sampleStore).state.object? .deployment ⟨"tools", "search"⟩ = some deployment ∧
      (deployment.container? "sidecar").isSome = true ∧ Wired stored "search" ingress service deployment := by
  have hsrv : sampleStore.object? .server sampleServer.key = some sampleServer := rfl
  obtain ⟨stored, ingress, service, deployment, _, _, _, hd, h⟩ :=
    done_objects_are_wired hsrv (rfl : sampleServer.metadata.name = some "search") rfl
  refine ⟨stored, ingress, service, deployment, hd, ?_, h⟩
  have hsidecar : ((Pass.inMemory sampleServer.key sampleStore).state.object? .deployment ⟨"tools", "search"⟩).any
      (fun d => ((d : Deployment).container? "sidecar").isSome) = true := by decide
  obtain ⟨d, hd', hsidecar⟩ := (Option.any_eq_true ..).mp hsidecar
  cases hd'.symm.trans hd
  exact hsidecar

end ServerOperator
