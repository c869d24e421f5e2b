import ServerOperator.Proofs.Drift

/-!
# A second merge changes nothing

What is wanted need not be what a server asks for: whole levels may be missing, containers may repeat a name and owners
an identity, and maps may be empty. A live object carries what is wanted if the levels that are wanted are there with
what is owned of them. A merge makes the live object carry what is wanted and leaves alone exactly the objects that do,
so that to merge once is to merge any number of times.
-/

namespace ServerOperator

structure HasParts {σ : Type} (R : σ → σ → Prop) (live wanted : Metadata) (spec wantedSpec : Option σ) : Prop where
  metadata : live.UpToDate wanted
  spec : HasLevel R spec wantedSpec

theorem mergeParts_eq_left_iff {σ : Type} (empty : σ) {merge : σ → σ → σ} {R : σ → σ → Prop}
    (h : ∀ {l w}, merge l w = l ↔ R l w) {live wanted : Metadata} {spec wantedSpec : Option σ} :
    live.merge wanted = live ∧ (wantedSpec.elim spec fun w => some (merge (spec.getD empty) w)) = spec ↔
      HasParts R live wanted spec wantedSpec := by
  constructor
  · rintro ⟨hm, hs⟩
    exact ⟨Metadata.merge_eq_left_iff.mp hm, (mergeLevel_eq_left_iff h).mp hs⟩
  · rintro ⟨hm, hs⟩
    exact ⟨Metadata.merge_eq_left_iff.mpr hm, (mergeLevel_eq_left_iff h).mpr hs⟩

namespace Child

def Carries : (c : Child) → (live wanted : c.kind.Object) → Prop
  | deployment, ⟨m, s, _⟩, ⟨m', s', _⟩ => HasParts DeploymentSpec.Carries m m' s s'
  | service, ⟨m, s, _⟩, ⟨m', s', _⟩ =>
    HasParts (fun l w => l.type = w.type ∧ l.selector = w.selector ∧ l.ports = w.ports) m m' s s'
  | ingress, ⟨m, s, _⟩, ⟨m', s', _⟩ =>
    HasParts (fun l w => l.ingressClassName = w.ingressClassName ∧ l.rules = w.rules) m m' s s'

theorem merge_eq_left_iff_carries {c : Child} {live w : c.kind.Object} : c.merge live w = live ↔ c.Carries live w := by
  cases c with
  | deployment =>
    obtain ⟨m, s, status⟩ := live
    refine Iff.trans ?_ (mergeParts_eq_left_iff {} DeploymentSpec.merge_eq_left_iff)
    simp [merge, Deployment.merge]
  | service =>
    obtain ⟨m, s, status⟩ := live
    refine Iff.trans ?_ (mergeParts_eq_left_iff {} ServiceSpec.merge_eq_left_iff)
    simp [merge, Service.merge]
  | ingress =>
    obtain ⟨m, s, status⟩ := live
    refine Iff.trans ?_ (mergeParts_eq_left_iff {} IngressSpec.merge_eq_left_iff)
    simp [merge, Ingress.merge]

/-- A server asks for every level of its children, so that they carry it when no owned field has drifted. -/
theorem carries_iff_upToDate {c : Child} {srv : Server} {live w : c.kind.Object} (hw : c.wanted srv = .ok w) :
    c.Carries live w ↔ c.UpToDate live w :=
  merge_eq_left_iff_carries.symm.trans (c.merge_eq_left_iff hw)

end Child

/-- Whatever is live and whatever is wanted of a child, a second merge leaves the merged object as it is. It carries what
is wanted, and to carry that is all it takes to be left as it is. -/
theorem merge_is_idempotent (c : Child) (live wanted : c.kind.Object) :
    c.merge (c.merge live wanted) wanted = c.merge live wanted ∧ c.Carries (c.merge live wanted) wanted ∧
      (c.merge live wanted = live ↔ c.Carries live wanted) := by
  have hmerged := c.merge_merged live wanted
  exact ⟨hmerged, Child.merge_eq_left_iff_carries.mp hmerged, Child.merge_eq_left_iff_carries⟩

-- Two wanted containers of one name: the second updates what the first has just added.
example : (PodSpec.merge {}
      { containers := [{ name := "web", image := some "web:1", args := some ["serve"] },
          { name := "web", image := some "web:2" }] }).containers =
    [{ name := "web", image := some "web:2", args := some ["serve"] }] := by decide

end ServerOperator
