import ServerOperator.Proofs.Drift

/-!
# What a merge may touch

The other half of a merge: besides the owned fields, which come out as wanted, a live object stays as it is.
Entries and owners of others stay, a container is changed in its owned fields or appended at the end, and
levels of the object that were missing come into being empty but for what is owned. Of one level, "the rest
is as before" is said by putting the owned fields back: the live object comes out again.
-/

namespace ServerOperator

/-! ## Entries and owners -/

/-- What `merged` holds under other keys than `wanted`, `live` held too; and without a wanted entry nothing,
not even an empty map, is made. -/
structure EntriesKept (live wanted merged : Option (SortedMap String)) : Prop where
  others : ∀ key, wanted.bind (·.get? key) = none → merged.bind (·.get? key) = live.bind (·.get? key)
  untouched : (∀ key, wanted.bind (·.get? key) = none) → merged = live

theorem mergeEntries_of_unwanted {live wanted : Option (SortedMap String)}
    (h : ∀ key, wanted.bind (·.get? key) = none) : mergeEntries live wanted = live :=
  mergeEntries_eq_left_iff.mpr fun key _ hget => nomatch (h key).symm.trans hget

theorem get?_mergeEntries_eq_or (live wanted : Option (SortedMap String)) (key : String) :
    (mergeEntries live wanted).bind (·.get? key) = (wanted.bind (·.get? key)).or (live.bind (·.get? key)) := by
  cases hget : wanted.bind (·.get? key) with
  | some value =>
    obtain ⟨w, rfl, hget⟩ := Option.bind_eq_some_iff.mp hget
    exact get?_mergeEntries hget
  | none =>
    cases wanted with
    | none => rfl
    | some w =>
      have hget : w.get? key = none := hget
      cases hw : w.isEmpty <;> cases live <;> simp [mergeEntries, hw, hget]

theorem entriesKept_mergeEntries (live wanted : Option (SortedMap String)) :
    EntriesKept live wanted (mergeEntries live wanted) where
  others := fun key h => by rw [get?_mergeEntries_eq_or, h, Option.none_or]
  untouched := mergeEntries_of_unwanted

theorem EntriesKept.eq_mergeEntries {live wanted merged : Option (SortedMap String)}
    (h : EntriesKept live wanted merged) (hw : HasEntries merged wanted) : merged = mergeEntries live wanted := by
  by_cases hnone : ∀ key, wanted.bind (·.get? key) = none
  · rw [mergeEntries_of_unwanted hnone, h.untouched hnone]
  -- Something is wanted, so that both are maps, and maps are compared by look-up.
  obtain ⟨key, hkey⟩ := Classical.not_forall.mp hnone
  obtain ⟨value, hget⟩ := Option.ne_none_iff_exists'.mp hkey
  obtain ⟨m, rfl, _⟩ := Option.bind_eq_some_iff.mp (hw key value hget)
  have hstable := mergeEntries_eq_left_iff.mp (mergeEntries_stable live wanted)
  obtain ⟨n, hn, _⟩ := Option.bind_eq_some_iff.mp (hstable key value hget)
  have hlookup := get?_mergeEntries_eq_or live wanted
  rw [hn] at hlookup ⊢
  refine congrArg some (SortedMap.ext_get? fun key => Eq.trans ?_ (hlookup key).symm)
  cases hget : wanted.bind (·.get? key) with
  | some value => exact hw key value hget
  | none => exact h.others key hget

def OwnersKept (live wanted merged : Option (List OwnerReference)) : Prop :=
  merged = live ∨ ∃ owner, wanted = some [owner] ∧ (∀ o ∈ live.getD [], o.uid ≠ owner.uid) ∧
    merged = some (live.getD [] ++ [owner])

theorem ownersKept_mergeOwners (live : Option (List OwnerReference)) (owner? : Option OwnerReference) :
    OwnersKept live (owner?.map ([·])) (mergeOwners live (owner?.map ([·]))) := by
  cases owner? with
  | none => exact .inl rfl
  | some owner =>
    show OwnersKept live _ (some (addOwner (live.getD []) owner))
    by_cases h : ∃ o ∈ live.getD [], o.uid = owner.uid
    · have hadd : addOwner (live.getD []) owner = live.getD [] := if_pos (by simpa using h)
      obtain ⟨o, ho, _⟩ := h
      cases live with
      | none => cases ho
      | some l => exact .inl (congrArg some hadd)
    · have hadd : addOwner (live.getD []) owner = live.getD [] ++ [owner] := if_neg (by simpa using h)
      exact .inr ⟨owner, rfl, fun o ho e => h ⟨o, ho, e⟩, congrArg some hadd⟩

theorem OwnersKept.eq_mergeOwners {live wanted merged : Option (List OwnerReference)}
    (h : OwnersKept live wanted merged) (hw : HasOwners merged wanted) : merged = mergeOwners live wanted := by
  rcases h with rfl | ⟨owner, rfl, hne, rfl⟩
  · exact (mergeOwners_eq_left_iff.mpr hw).symm
  · exact congrArg some (if_neg (by simpa using hne)).symm

structure Metadata.Kept (live wanted merged : Metadata) : Prop where
  labels : EntriesKept live.labels wanted.labels merged.labels
  annotations : EntriesKept live.annotations wanted.annotations merged.annotations
  owners : OwnersKept live.ownerReferences wanted.ownerReferences merged.ownerReferences
  others : { merged with
    labels := live.labels, annotations := live.annotations, ownerReferences := live.ownerReferences } = live

theorem Metadata.kept_merge {srv : Server} (live : Metadata) {wanted : Metadata}
    (hw : wanted.ownerReferences = srv.ownerReference?.map ([·])) : live.Kept wanted (live.merge wanted) where
  labels := entriesKept_mergeEntries ..
  annotations := entriesKept_mergeEntries ..
  owners := by
    rw [merge, hw]
    exact ownersKept_mergeOwners ..
  others := rfl

theorem Metadata.Kept.eq_merge {live wanted merged : Metadata} (h : live.Kept wanted merged)
    (hw : merged.UpToDate wanted) : merged = live.merge wanted := by
  rw [merge, ← h.labels.eq_mergeEntries hw.labels, ← h.annotations.eq_mergeEntries hw.annotations,
    ← h.owners.eq_mergeOwners hw.owners]
  exact congrArg (fun m : Metadata => { m with
    labels := merged.labels, annotations := merged.annotations, ownerReferences := merged.ownerReferences }) h.others

/-! ## Levels -/

/-- The level is there, and to what it was it stands in relation `R`; a missing one counts as empty. -/
def LevelKept {α : Type} (empty : α) (R : α → α → Prop) (live merged : Option α) : Prop :=
  ∃ m, merged = some m ∧ R (live.getD empty) m

/-! ## Deployments -/

def Container.Kept (live merged : Container) : Prop :=
  { merged with image := live.image, ports := live.ports, env := live.env, resources := live.resources } = live

inductive ContainersKept (wanted : Container) : (live merged : List Container) → Prop where
  | updated {before after : List Container} {c c' : Container} (first : ∀ b ∈ before, b.name ≠ wanted.name)
    (named : c.name = wanted.name) (kept : c.Kept c') :
    ContainersKept wanted (before ++ c :: after) (before ++ c' :: after)
  | appended {live : List Container} (unknown : ∀ c ∈ live, c.name ≠ wanted.name) :
    ContainersKept wanted live (live ++ [wanted])

theorem ContainersKept.cons {wanted c : Container} {live merged : List Container} (hc : c.name ≠ wanted.name)
    (h : ContainersKept wanted live merged) : ContainersKept wanted (c :: live) (c :: merged) := by
  cases h with
  | @updated before _ _ _ first named kept =>
    exact @updated _ (c :: before) _ _ _ (List.forall_mem_cons.mpr ⟨hc, first⟩) named kept
  | appended unknown => exact .appended (List.forall_mem_cons.mpr ⟨hc, unknown⟩)

theorem containersKept_mergeContainer (wanted : Container) (live : List Container) :
    ContainersKept wanted live (mergeContainer live wanted) := by
  induction live with
  | nil => exact .appended (List.forall_mem_nil _)
  | cons c live ih =>
    by_cases h : c.name = wanted.name
    · rw [mergeContainer, if_pos h]
      exact @ContainersKept.updated _ [] _ _ _ (List.forall_mem_nil _) h rfl
    · rw [mergeContainer, if_neg h]
      exact ih.cons h

theorem mergeContainer_append {before : List Container} {wanted : Container}
    (unknown : ∀ b ∈ before, b.name ≠ wanted.name) (after : List Container) :
    mergeContainer (before ++ after) wanted = before ++ mergeContainer after wanted := by
  induction before with
  | nil => rfl
  | cons b before ih =>
    obtain ⟨hb, hbefore⟩ := List.forall_mem_cons.mp unknown
    rw [List.cons_append, mergeContainer, if_neg hb, ih hbefore, List.cons_append]

theorem ContainersKept.eq_mergeContainer {wanted : Container} {live merged : List Container}
    (h : ContainersKept wanted live merged) {v : Container} (hv : merged.find? (·.name == wanted.name) = some v)
    (hmatch : v.Matches wanted) : merged = mergeContainer live wanted := by
  cases h with
  | appended unknown =>
    have hlast := mergeContainer_append unknown []
    rw [List.append_nil] at hlast
    exact hlast.symm
  | @updated before after c c' first named kept =>
    have hname : c'.name = wanted.name := (congrArg Container.name kept).trans named
    have hfind : before.find? (·.name == wanted.name) = none := by simpa using first
    rw [List.find?_append, hfind, Option.none_or, List.find?_cons_of_pos (by simpa using hname)] at hv
    cases hv
    obtain ⟨hi, hp, he, hr⟩ := hmatch
    rw [mergeContainer_append first, mergeContainer, if_pos named, ← hi, ← hp, ← he, ← hr]
    refine congrArg (before ++ · :: after) ?_
    exact congrArg (fun d : Container => { d with
      image := v.image, ports := v.ports, env := v.env, resources := v.resources }) kept

structure PodSpec.Kept (wanted : Container) (live merged : PodSpec) : Prop where
  containers : ContainersKept wanted live.containers merged.containers
  others : { merged with imagePullSecrets := live.imagePullSecrets, containers := live.containers } = live

structure PodTemplate.MetadataKept (wanted : Option (SortedMap String)) (live merged : Metadata) : Prop where
  labels : EntriesKept live.labels wanted merged.labels
  others : { merged with labels := live.labels } = live

structure DeploymentSpec.Kept (wanted : Deployment) (container : Container) (live merged : DeploymentSpec) :
    Prop where
  podMetadata : LevelKept {} (PodTemplate.MetadataKept (wanted.podMetadata?.bind (·.labels))) live.template.metadata
    merged.template.metadata
  pod : LevelKept {} (PodSpec.Kept container) live.template.spec merged.template.spec
  others : { merged with replicas := live.replicas, template := live.template } = live

structure Deployment.Kept (name : String) (live wanted merged : Deployment) : Prop where
  metadata : live.metadata.Kept wanted.metadata merged.metadata
  spec : ∃ container, wanted.containers = [container] ∧ container.name = name ∧
    LevelKept {} (DeploymentSpec.Kept wanted container) live.spec merged.spec
  status : merged.status = live.status

theorem Deployment.kept_merge {srv : Server} {wanted : Deployment} (hw : srv.deployment = .ok wanted)
    (live : Deployment) : live.Kept srv.name wanted (live.merge wanted) := by
  obtain ⟨image, resources, _, rfl⟩ := Server.deployment_eq hw
  constructor
  case metadata => exact live.metadata.kept_merge rfl
  case status => rfl
  case spec =>
    refine ⟨_, rfl, rfl, _, rfl, ?_⟩
    constructor
    case podMetadata => exact ⟨_, rfl, entriesKept_mergeEntries .., rfl⟩
    case pod => exact ⟨_, rfl, containersKept_mergeContainer .., rfl⟩
    case others => rfl

theorem PodSpec.Kept.eq_merge {c : Container} {live merged w : PodSpec} (h : live.Kept c merged)
    (hw : w.containers = [c]) (hs : merged.imagePullSecrets = w.imagePullSecrets)
    {v : Container} (hv : merged.containers.find? (·.name == c.name) = some v) (hmatch : v.Matches c) :
    merged = live.merge w := by
  rw [merge, hw, List.foldl_cons, List.foldl_nil, ← h.containers.eq_mergeContainer hv hmatch, ← hs]
  exact congrArg (fun p : PodSpec => { p with
    imagePullSecrets := merged.imagePullSecrets, containers := merged.containers }) h.others

theorem PodTemplate.MetadataKept.eq_merge {labels : Option (SortedMap String)} {live merged : Metadata}
    (h : MetadataKept labels live merged) (hw : HasEntries merged.labels labels) :
    merged = { live with labels := mergeEntries live.labels labels } := by
  rw [← h.labels.eq_mergeEntries hw]
  exact congrArg (fun m : Metadata => { m with labels := merged.labels }) h.others

theorem DeploymentSpec.Kept.eq_merge {wanted : Deployment} {container : Container} {live merged w : DeploymentSpec}
    {labels : Metadata} {pod : PodSpec} (h : live.Kept wanted container merged) (hspec : wanted.spec = some w)
    (hm : w.template.metadata = some labels) (hp : w.template.spec = some pod) (hc : pod.containers = [container])
    (hreplicas : merged.replicas = w.replicas)
    (hlabels : HasEntries (merged.template.metadata.bind (·.labels)) labels.labels)
    (hsecrets : merged.template.spec.bind (·.imagePullSecrets) = pod.imagePullSecrets)
    {v : Container} (hv : (merged.template.spec.bind fun p => p.containers.find? (·.name == container.name)) = some v)
    (hmatch : v.Matches container) : merged = live.merge w := by
  obtain ⟨m, hm', hmkept⟩ := h.podMetadata
  obtain ⟨p, hp', hpkept⟩ := h.pod
  have hwanted : wanted.podMetadata?.bind (·.labels) = labels.labels := by
    rw [Deployment.podMetadata?, hspec, Option.bind_some, hm, Option.bind_some]
  rw [hwanted] at hmkept
  rw [hm', Option.bind_some] at hlabels
  rw [hp', Option.bind_some] at hsecrets hv
  have hmetadata :
      merged.template.metadata = PodTemplate.mergeMetadata live.template.metadata w.template.metadata := by
    rw [hm', hm]
    exact congrArg some (hmkept.eq_merge hlabels)
  have hpod : merged.template.spec = w.template.spec.elim live.template.spec fun w =>
      some ((live.template.spec.getD {}).merge w) := by
    rw [hp', hp]
    exact congrArg some (hpkept.eq_merge hc hsecrets hv hmatch)
  have htemplate : merged.template = live.template.merge w.template := by
    rw [PodTemplate.merge, ← hmetadata, ← hpod]
  rw [merge, ← htemplate, ← hreplicas]
  exact congrArg (fun s : DeploymentSpec => { s with
    replicas := merged.replicas, template := merged.template }) h.others

theorem Deployment.Kept.eq_merge {srv : Server} {live wanted merged : Deployment} (hw : srv.deployment = .ok wanted)
    (h : live.Kept srv.name wanted merged) (hu : merged.UpToDate wanted) : merged = live.merge wanted := by
  obtain ⟨image, resources, _, rfl⟩ := Server.deployment_eq hw
  obtain ⟨hmetadata, ⟨container, hcontainer, _, spec, hspec, hkept⟩, hstatus⟩ := h
  obtain ⟨humeta, hreplicas, hlabels, hsecrets, hcontainers⟩ := hu
  obtain ⟨v, hv, hmatch⟩ := hcontainers container (hcontainer ▸ List.mem_singleton_self _)
  cases hcontainer
  obtain ⟨metadata, _, status⟩ := merged
  cases hspec
  cases hstatus
  have hspec := hkept.eq_merge rfl rfl rfl rfl hreplicas hlabels hsecrets hv hmatch
  have hmetadata : metadata = _ := hmetadata.eq_merge humeta
  rw [merge, ← hmetadata]
  exact congrArg (fun spec => Deployment.mk metadata (some spec) live.status) hspec

/-! ## Services and Ingresses -/

structure Service.Kept (live wanted merged : Service) : Prop where
  metadata : live.metadata.Kept wanted.metadata merged.metadata
  spec : LevelKept {} (fun live merged : ServiceSpec =>
    { merged with type := live.type, selector := live.selector, ports := live.ports } = live) live.spec merged.spec
  status : merged.status = live.status

theorem Service.kept_merge (srv : Server) (live : Service) : live.Kept srv.service (live.merge srv.service) where
  metadata := live.metadata.kept_merge rfl
  spec := ⟨_, rfl, rfl⟩
  status := rfl

theorem Service.Kept.eq_merge {srv : Server} {live merged : Service} (h : live.Kept srv.service merged)
    (hu : merged.UpToDate srv.service) : merged = live.merge srv.service := by
  obtain ⟨hmetadata, ⟨spec, hspec, hothers⟩, hstatus⟩ := h
  obtain ⟨humeta, htype, hselector, hports⟩ := hu
  obtain ⟨metadata, _, status⟩ := merged
  cases hspec
  cases hstatus
  have hspec : spec = (live.spec.getD {}).merge srv.serviceSpec := by
    have htype : spec.type = srv.serviceSpec.type := htype
    have hselector : spec.selector = srv.serviceSpec.selector := hselector
    have hports : spec.ports = srv.serviceSpec.ports := hports
    rw [ServiceSpec.merge, ← htype, ← hselector, ← hports]
    exact congrArg (fun s : ServiceSpec => { s with
      type := spec.type, selector := spec.selector, ports := spec.ports }) hothers
  have hmetadata : metadata = _ := hmetadata.eq_merge humeta
  rw [merge, ← hmetadata]
  exact congrArg (fun spec => Service.mk metadata (some spec) live.status) hspec

structure Ingress.Kept (live wanted merged : Ingress) : Prop where
  metadata : live.metadata.Kept wanted.metadata merged.metadata
  spec : LevelKept {} (fun live merged : IngressSpec =>
    { merged with ingressClassName := live.ingressClassName, rules := live.rules } = live) live.spec merged.spec
  status : merged.status = live.status

theorem Ingress.kept_merge (srv : Server) (live : Ingress) : live.Kept srv.ingress (live.merge srv.ingress) where
  metadata := live.metadata.kept_merge rfl
  spec := ⟨_, rfl, rfl⟩
  status := rfl

theorem Ingress.Kept.eq_merge {srv : Server} {live merged : Ingress} (h : live.Kept srv.ingress merged)
    (hu : merged.UpToDate srv.ingress) : merged = live.merge srv.ingress := by
  obtain ⟨hmetadata, ⟨spec, hspec, hothers⟩, hstatus⟩ := h
  obtain ⟨humeta, hclass, hrules⟩ := hu
  obtain ⟨metadata, _, status⟩ := merged
  cases hspec
  cases hstatus
  have hspec : spec = (live.spec.getD {}).merge srv.ingressSpec := by
    have hclass : spec.ingressClassName = srv.ingressSpec.ingressClassName := hclass
    have hrules : spec.rules = srv.ingressSpec.rules := hrules
    rw [IngressSpec.merge, ← hclass, ← hrules]
    exact congrArg (fun s : IngressSpec => { s with
      ingressClassName := spec.ingressClassName, rules := spec.rules }) hothers
  have hmetadata : metadata = _ := hmetadata.eq_merge humeta
  rw [merge, ← hmetadata]
  exact congrArg (fun spec => Ingress.mk metadata (some spec) live.status) hspec

/-! ## Children -/

/-- All of the live object that the server `name` does not own is in the merged one as it was. -/
def Child.Kept (name : String) : (c : Child) → (live wanted merged : c.kind.Object) → Prop
  | deployment, live, wanted, merged => Deployment.Kept name live wanted merged
  | service, live, wanted, merged => Service.Kept live wanted merged
  | ingress, live, wanted, merged => Ingress.Kept live wanted merged

/-- Merging makes every owned field of a live object the wanted one and keeps everything else, and there is but
one object of which both hold. -/
theorem merge_is_bounded_by_ownership {c : Child} {srv : Server} {wanted : c.kind.Object}
    (hw : c.wanted srv = .ok wanted) (live merged : c.kind.Object) :
    merged = c.merge live wanted ↔ c.UpToDate merged wanted ∧ c.Kept srv.name live wanted merged := by
  constructor
  · rintro rfl
    refine ⟨(c.merge_eq_left_iff hw).mp (c.merge_merged live wanted), ?_⟩
    cases c with
    | deployment => exact Deployment.kept_merge hw live
    | service =>
      cases hw
      exact Service.kept_merge srv live
    | ingress =>
      cases hw
      exact Ingress.kept_merge srv live
  · rintro ⟨hu, hk⟩
    cases c with
    | deployment => exact Deployment.Kept.eq_merge hw hk hu
    | service =>
      cases hw
      exact Service.Kept.eq_merge hk hu
    | ingress =>
      cases hw
      exact Ingress.Kept.eq_merge hk hu

/-- In the sample the Deployment is paused and has a container of somebody else's; the server's own is missing. -/
theorem merge_is_bounded_by_ownership_sample : ∃ live wanted : Deployment,
    sampleStore.object? .deployment sampleServer.key = some live ∧ sampleServer.deployment = .ok wanted ∧
      (live.merge wanted).containers.map (·.name) = ["sidecar", "search"] ∧
      (live.merge wanted).spec.bind (·.paused) = some true ∧
      Child.deployment.UpToDate (live.merge wanted) wanted ∧
      Child.deployment.Kept "search" live wanted (live.merge wanted) := by
  refine ⟨_, _, rfl, rfl, rfl, rfl, ?_⟩
  have hw : Child.deployment.wanted sampleServer = .ok _ := rfl
  exact (merge_is_bounded_by_ownership hw _ _).mp rfl

end ServerOperator
