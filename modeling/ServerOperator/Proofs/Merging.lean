import Mathlib.Data.List.Induction
import ServerOperator.Kind

/-!
# Merging twice

A live object that has taken over what is wanted takes over nothing more: each of the merges (entries,
owners, containers, and the three objects made of them) is stable after one application. So is an object
just created from what is wanted. A list of containers is stable exactly if it has what is wanted.
-/

namespace ServerOperator

/-! ## Versions and namespaces -/

namespace Kind

theorem name_injective {k k' : Kind} (h : k.name = k'.name) : k = k' := by
  revert h; cases k <;> cases k' <;> decide

def withVersion (k : Kind) (o : k.Object) (v : Option String) : k.Object :=
  k.withMetadata o { k.metadata o with resourceVersion := v }

def inSpace (k : Kind) (o : k.Object) (space : String) : k.Object :=
  k.withMetadata o { k.metadata o with ns := some space }

def unversioned (k : Kind) (o : k.Object) : k.Object := k.withVersion o none

@[simp] theorem withVersion_withVersion (k : Kind) (o : k.Object) (v v' : Option String) :
    k.withVersion (k.withVersion o v) v' = k.withVersion o v' := by
  cases k <;> rfl

theorem withVersion_self (k : Kind) (o : k.Object) : k.withVersion o (k.metadata o).resourceVersion = o := by
  cases k <;> rfl

@[simp] theorem unversioned_withVersion (k : Kind) (o : k.Object) (v : Option String) :
    k.unversioned (k.withVersion o v) = k.unversioned o :=
  k.withVersion_withVersion o v none

end Kind

/-! ## Entries -/

namespace SortedMap

variable {β : Type}

theorem get?_foldl_insert : ∀ (l : List (String × β)), KeysIncrease l → ∀ (m : SortedMap β) (key : String),
    (l.foldl (fun m e => m.insert e.1 e.2) m).get? key = (find? key l).or (m.get? key)
  | [], _, _, _ => rfl
  | (k, v) :: l, h, m, key => by
    obtain ⟨hk, hl⟩ := List.pairwise_cons.mp h
    rw [List.foldl_cons, get?_foldl_insert l hl, get?_insert]
    by_cases e : k = key
    · subst e
      rw [find?_eq_none_of_lt hk]; simp [find?]
    · simp [find?, e]

@[simp] theorem get?_union (m n : SortedMap β) (key : String) :
    (m.union n).get? key = (n.get? key).or (m.get? key) :=
  get?_foldl_insert n.entries n.increasing m key

theorem union_union (m n : SortedMap β) : (m.union n).union n = m.union n :=
  ext_get? fun key => by rw [get?_union, get?_union]; cases n.get? key <;> rfl

theorem union_self (m : SortedMap β) : m.union m = m :=
  ext_get? fun key => by rw [get?_union]; cases m.get? key <;> rfl

end SortedMap

theorem mergeEntries_stable (live wanted : Option (SortedMap String)) :
    mergeEntries (mergeEntries live wanted) wanted = mergeEntries live wanted := by
  cases wanted with
  | none => rfl
  | some w => by_cases h : w.isEmpty <;> simp [mergeEntries, h, SortedMap.union_union]

theorem mergeEntries_self (m : Option (SortedMap String)) : mergeEntries m m = m := by
  cases m with
  | none => rfl
  | some w => by_cases h : w.isEmpty <;> simp [mergeEntries, h, SortedMap.union_self]

/-! ## Owners -/

theorem mem_addOwner {l : List OwnerReference} {x : OwnerReference} (owner : OwnerReference) (h : x ∈ l) :
    x ∈ addOwner l owner := by
  unfold addOwner; split
  · exact h
  · exact List.mem_append_left _ h

theorem mem_foldl_addOwner {owners l : List OwnerReference} {x : OwnerReference} (h : x ∈ l) :
    x ∈ owners.foldl addOwner l := by
  induction owners generalizing l with
  | nil => exact h
  | cons o owners ih => exact ih (mem_addOwner o h)

theorem uid_mem_addOwner (l : List OwnerReference) (owner : OwnerReference) :
    ∃ x ∈ addOwner l owner, x.uid = owner.uid := by
  unfold addOwner; split
  · next h => simpa using h
  · exact ⟨owner, by simp, rfl⟩

theorem uid_mem_foldl_addOwner {owners : List OwnerReference} (l : List OwnerReference) :
    ∀ o ∈ owners, ∃ x ∈ owners.foldl addOwner l, x.uid = o.uid := by
  induction owners generalizing l with
  | nil => intro o ho; cases ho
  | cons p owners ih =>
    intro o ho
    rcases List.mem_cons.mp ho with rfl | ho
    · obtain ⟨x, hx, hu⟩ := uid_mem_addOwner l o
      rw [List.foldl_cons]
      exact ⟨x, mem_foldl_addOwner hx, hu⟩
    · exact ih _ o ho

theorem foldl_addOwner_of_known {owners l : List OwnerReference} (h : ∀ o ∈ owners, ∃ x ∈ l, x.uid = o.uid) :
    owners.foldl addOwner l = l := by
  induction owners with
  | nil => rfl
  | cons o owners ih =>
    have ho : addOwner l o = l := if_pos (by simpa using h o (by simp))
    rw [List.foldl_cons, ho]
    exact ih fun p hp => h p (List.mem_cons_of_mem _ hp)

theorem mergeOwners_stable (live wanted : Option (List OwnerReference)) :
    mergeOwners (mergeOwners live wanted) wanted = mergeOwners live wanted := by
  match wanted with
  | none | some [] => rfl
  | some (o :: owners) =>
    simp only [mergeOwners, Option.getD_some, Option.some.injEq]
    exact foldl_addOwner_of_known (uid_mem_foldl_addOwner _)

theorem mergeOwners_self (owners : Option (List OwnerReference)) : mergeOwners owners owners = owners := by
  match owners with
  | none | some [] => rfl
  | some (o :: owners) =>
    simp only [mergeOwners, Option.getD_some, Option.some.injEq]
    exact foldl_addOwner_of_known fun p hp => ⟨p, hp, rfl⟩

theorem Metadata.merge_stable (live wanted : Metadata) : (live.merge wanted).merge wanted = live.merge wanted := by
  simp only [Metadata.merge, mergeEntries_stable, mergeOwners_stable]

/-! ## Containers -/

structure Container.Matches (c wanted : Container) : Prop where
  image : c.image = wanted.image
  ports : c.ports = wanted.ports
  env : c.env = wanted.env
  resources : c.resources = wanted.resources

theorem names_subset_mergeContainer {l : List Container} {n : String} (w : Container)
    (h : n ∈ l.map (·.name)) : n ∈ (mergeContainer l w).map (·.name) := by
  induction l with
  | nil => cases h
  | cons c l ih =>
    unfold mergeContainer; split
    · exact h
    · rw [List.map_cons, List.mem_cons] at h ⊢
      exact h.imp_right ih

theorem mergeContainer_stable (l : List Container) (w : Container) :
    mergeContainer (mergeContainer l w) w = mergeContainer l w := by
  induction l with
  | nil => simp [mergeContainer]
  | cons c l ih => by_cases h : c.name = w.name <;> simp [mergeContainer, h, ih]

theorem mergeContainer_eq_left_iff {l : List Container} {w : Container} : mergeContainer l w = l ↔
    ∃ c, l.find? (·.name == w.name) = some c ∧ c.Matches w := by
  induction l with
  | nil => simp [mergeContainer]
  | cons c l ih =>
    by_cases h : c.name = w.name
    · have hfind : (c :: l).find? (·.name == w.name) = some c := by simp [h]
      rw [mergeContainer, if_pos h, hfind]
      constructor
      · intro e
        have e := (List.cons.inj e).1
        exact ⟨c, rfl, (congrArg Container.image e).symm, (congrArg Container.ports e).symm,
          (congrArg Container.env e).symm, (congrArg Container.resources e).symm⟩
      · rintro ⟨_, hc, hi, hp, he, hr⟩
        cases hc
        rw [← hi, ← hp, ← he, ← hr]
    · have hfind : (c :: l).find? (·.name == w.name) = l.find? (·.name == w.name) := by simp [h]
      rw [mergeContainer, if_neg h, hfind, List.cons_inj_right]
      exact ih

/-- Of two containers of one name, the later decides. -/
theorem mergeContainer_absorb {l : List Container} {v w : Container} (hvw : v.name = w.name)
    (h : w.name ∈ l.map (·.name)) : mergeContainer (mergeContainer l v) w = mergeContainer l w := by
  induction l with
  | nil => cases h
  | cons c l ih =>
    by_cases hc : c.name = w.name
    · simp [mergeContainer, hc, hvw]
    · have hl : w.name ∈ l.map (·.name) := by
        rcases List.mem_cons.mp h with e | e
        · exact absurd e.symm hc
        · exact e
      simp [mergeContainer, hc, hvw, ih hl]

theorem mergeContainer_comm {l : List Container} {v w : Container} (hvw : v.name ≠ w.name)
    (h : w.name ∈ l.map (·.name)) :
    mergeContainer (mergeContainer l v) w = mergeContainer (mergeContainer l w) v := by
  induction l with
  | nil => cases h
  | cons c l ih =>
    by_cases hc : c.name = w.name
    · simp [mergeContainer, hc, Ne.symm hvw]
    · have hl : w.name ∈ l.map (·.name) := by
        rcases List.mem_cons.mp h with e | e
        · exact absurd e.symm hc
        · exact e
      by_cases hv : c.name = v.name
      · simp [mergeContainer, hv, hvw]
      · simp [mergeContainer, hc, hv, ih hl]

/-- A container is forgotten if another of its name follows. -/
theorem foldl_mergeContainer_absorb {w : Container} : ∀ {l : List Container} (ws : List Container),
    w.name ∈ ws.map (·.name) → (∀ v ∈ ws, v.name ∈ l.map (·.name)) →
      ws.foldl mergeContainer (mergeContainer l w) = ws.foldl mergeContainer l
  | l, v :: ws, hw, hl => by
    have hv := hl v (by simp)
    rw [List.foldl_cons, List.foldl_cons]
    by_cases h : w.name = v.name
    · rw [mergeContainer_absorb h hv]
    · have hw' : w.name ∈ ws.map (·.name) := by
        rcases List.mem_cons.mp hw with e | e
        · exact absurd e h
        · exact e
      rw [mergeContainer_comm h hv]
      exact foldl_mergeContainer_absorb ws hw' fun u hu =>
        names_subset_mergeContainer v (hl u (List.mem_cons_of_mem _ hu))

theorem find?_mergeContainer_of_ne {l : List Container} {w : Container} {name : String} (h : w.name ≠ name) :
    (mergeContainer l w).find? (·.name == name) = l.find? (·.name == name) := by
  induction l with
  | nil => simp [mergeContainer, h]
  | cons c l ih =>
    by_cases hc : c.name = w.name
    · simp [mergeContainer, hc, h]
    · simp [mergeContainer, hc, List.find?_cons, ih]

/-- Of the live containers with one name the first counts, and of the wanted ones the last. -/
def HasContainers (live wanted : List Container) : Prop :=
  ∀ name w, wanted.reverse.find? (·.name == name) = some w →
    ∃ c, live.find? (·.name == name) = some c ∧ c.Matches w

theorem hasContainers_foldl (l ws : List Container) : HasContainers (ws.foldl mergeContainer l) ws := by
  induction ws using List.reverseRecOn with
  | nil => nofun
  | append_singleton ws v ih =>
    intro name w hw
    rw [List.reverse_concat] at hw
    rw [List.foldl_append, List.foldl_cons, List.foldl_nil]
    by_cases h : v.name = name
    · subst h
      cases (List.find?_cons_of_pos (by simp)).symm.trans hw
      exact mergeContainer_eq_left_iff.mp (mergeContainer_stable _ _)
    · rw [find?_mergeContainer_of_ne h]
      exact ih name w ((List.find?_cons_of_neg (by simpa using h)).symm.trans hw)

theorem HasContainers.tail {l ws : List Container} {v : Container} (h : HasContainers l (v :: ws)) :
    HasContainers l ws := by
  intro name w hw
  refine h name w ?_
  rw [List.reverse_cons, List.find?_append, hw]
  rfl

theorem HasContainers.name_mem {l ws : List Container} (h : HasContainers l ws) {w : Container} (hw : w ∈ ws) :
    w.name ∈ l.map (·.name) := by
  have hsome : (ws.reverse.find? (·.name == w.name)).isSome = true :=
    List.find?_isSome.mpr ⟨w, List.mem_reverse.mpr hw, by simp⟩
  obtain ⟨v, hv⟩ := Option.isSome_iff_exists.mp hsome
  obtain ⟨c, hc, _⟩ := h w.name v hv
  have hname : c.name = w.name := by simpa using List.find?_some hc
  exact List.mem_map.mpr ⟨c, List.mem_of_find?_eq_some hc, hname⟩

theorem foldl_mergeContainer_eq_left_iff {l ws : List Container} :
    ws.foldl mergeContainer l = l ↔ HasContainers l ws := by
  refine ⟨fun h => ?_, fun h => ?_⟩
  · have hfold := hasContainers_foldl l ws
    rwa [h] at hfold
  · induction ws with
    | nil => rfl
    | cons w ws ih =>
      rw [List.foldl_cons]
      -- A container that is not the last of its name may be missing: the later one undoes it.
      by_cases hw : w.name ∈ ws.map (·.name)
      · rw [foldl_mergeContainer_absorb ws hw fun v hv => h.tail.name_mem hv]
        exact ih h.tail
      · have hlast : (w :: ws).reverse.find? (·.name == w.name) = some w := by
          have hnone : ws.reverse.find? (·.name == w.name) = none := by simpa using hw
          rw [List.reverse_cons, List.find?_append, hnone]
          simp
        rw [mergeContainer_eq_left_iff.mpr (h w.name w hlast)]
        exact ih h.tail

theorem hasContainers_singleton {l : List Container} {w : Container} :
    HasContainers l [w] ↔ ∃ c, l.find? (·.name == w.name) = some c ∧ c.Matches w :=
  foldl_mergeContainer_eq_left_iff.symm.trans mergeContainer_eq_left_iff

theorem foldl_mergeContainer_stable (l ws : List Container) :
    ws.foldl mergeContainer (ws.foldl mergeContainer l) = ws.foldl mergeContainer l :=
  foldl_mergeContainer_eq_left_iff.mpr (hasContainers_foldl l ws)

/-! ## Objects -/

theorem PodSpec.merge_stable (live wanted : PodSpec) : (live.merge wanted).merge wanted = live.merge wanted := by
  simp only [PodSpec.merge, foldl_mergeContainer_stable]

theorem PodTemplate.mergeMetadata_stable (live wanted : Option Metadata) :
    mergeMetadata (mergeMetadata live wanted) wanted = mergeMetadata live wanted := by
  cases wanted with
  | none => rfl
  | some w => simp only [mergeMetadata, Option.elim, Option.getD_some, mergeEntries_stable]

theorem PodTemplate.merge_stable (live wanted : PodTemplate) :
    (live.merge wanted).merge wanted = live.merge wanted := by
  simp only [PodTemplate.merge, PodTemplate.mergeMetadata_stable]
  cases wanted.spec with
  | none => rfl
  | some w => simp only [Option.elim, Option.getD_some, PodSpec.merge_stable]

theorem DeploymentSpec.merge_stable (live wanted : DeploymentSpec) :
    (live.merge wanted).merge wanted = live.merge wanted := by
  simp only [DeploymentSpec.merge, PodTemplate.merge_stable]

namespace Child

/-- Merging once brings a live object up to date, whatever is wanted. -/
theorem merge_merged (c : Child) (live wanted : c.kind.Object) :
    c.merge (c.merge live wanted) wanted = c.merge live wanted := by
  cases c with
  | deployment =>
    obtain ⟨_, spec, _⟩ := wanted
    cases spec <;> simp [merge, Deployment.merge, Metadata.merge_stable, DeploymentSpec.merge_stable]
  | service =>
    obtain ⟨_, spec, _⟩ := wanted
    cases spec <;> simp [merge, Service.merge, ServiceSpec.merge, Metadata.merge_stable]
  | ingress =>
    obtain ⟨_, spec, _⟩ := wanted
    cases spec <;> simp [merge, Ingress.merge, IngressSpec.merge, Metadata.merge_stable]

end Child

end ServerOperator
