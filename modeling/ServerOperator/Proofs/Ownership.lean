import ServerOperator.Proofs.Endings

/-!
# Who controls a child

Owners are told apart by uid alone: merging adds the server unless an owner with its uid is there, and leaves
every owner it finds as it is, with the flag that makes it the controller or without. So the server comes to
be the one controller of a child if it was before, or if nobody controlled the child and the server was not
among its owners; in all other cases it does not.
-/

namespace ServerOperator

open MemoryStore (handler)

namespace Metadata

def owners (m : Metadata) : List OwnerReference := m.ownerReferences.getD []

/-- The owners that are marked as controller; a cluster admits one at most. -/
def controllers (m : Metadata) : List OwnerReference := m.owners.filter (·.controller == some true)

def ControlledOnlyBy (m : Metadata) (uid : String) : Prop := m.controllers.map (·.uid) = [uid]

def Unclaimed (m : Metadata) (uid : String) : Prop := m.controllers = [] ∧ ∀ o ∈ m.owners, o.uid ≠ uid

instance (m : Metadata) (uid : String) : Decidable (m.ControlledOnlyBy uid) :=
  inferInstanceAs (Decidable (_ = _))

instance (m : Metadata) (uid : String) : Decidable (m.Unclaimed uid) :=
  inferInstanceAs (Decidable (_ ∧ _))

end Metadata

/-! ## Merging owners -/

section
variable {live wanted : Metadata} {owner : OwnerReference} (hw : wanted.ownerReferences = some [owner])
include hw

theorem owners_merge : (live.merge wanted).owners =
    if ∃ o ∈ live.owners, o.uid = owner.uid then live.owners else live.owners ++ [owner] := by
  show (mergeOwners live.ownerReferences wanted.ownerReferences).getD [] = _
  rw [hw]
  show addOwner live.owners owner = _
  simp [addOwner]

theorem controlledOnlyBy_merge_iff (hc : owner.controller = some true) :
    (live.merge wanted).ControlledOnlyBy owner.uid ↔ live.ControlledOnlyBy owner.uid ∨ live.Unclaimed owner.uid := by
  unfold Metadata.ControlledOnlyBy Metadata.Unclaimed Metadata.controllers
  rw [owners_merge hw]
  by_cases h : ∃ o ∈ live.owners, o.uid = owner.uid
  · rw [if_pos h]
    refine ⟨.inl, fun hor => hor.resolve_right fun hun => ?_⟩
    obtain ⟨o, ho, e⟩ := h
    exact hun.2 o ho e
  · rw [if_neg h]
    have hno : ∀ o ∈ live.owners, o.uid ≠ owner.uid := fun o ho e => h ⟨o, ho, e⟩
    have hfilter : (live.owners ++ [owner]).filter (·.controller == some true) =
        live.owners.filter (·.controller == some true) ++ [owner] := by
      simp [hc]
    rw [hfilter]
    constructor
    · intro hsole
      have hnone : live.owners.filter (·.controller == some true) = [] := by simpa using hsole
      exact .inr ⟨hnone, hno⟩
    · rintro (hsole | ⟨hnone, _⟩)
      · -- The one controller there would be an owner with the uid.
        obtain ⟨o, ho, e⟩ := List.mem_map.mp (hsole ▸ List.mem_singleton_self owner.uid)
        exact absurd e (hno o (List.mem_filter.mp ho).1)
      · rw [hnone]
        rfl

end

/-! ## Children -/

section
variable {srv : Server} {name uid : String} (hname : srv.metadata.name = some name)
  (huid : srv.metadata.uid = some uid)
include hname huid

theorem owner_of_wanted {c : Child} {w : c.kind.Object} (hw : c.wanted srv = .ok w) : ∃ owner : OwnerReference,
    (c.kind.metadata w).ownerReferences = some [owner] ∧ owner.uid = uid ∧ owner.controller = some true := by
  obtain ⟨owner, howner, hu, hc⟩ : ∃ owner : OwnerReference, srv.childMetadata.ownerReferences = some [owner] ∧
      owner.uid = uid ∧ owner.controller = some true := by
    rw [Server.childMetadata, Server.ownerReference?, hname, huid]
    exact ⟨_, rfl, rfl, rfl⟩
  refine ⟨owner, howner ▸ ?_, hu, hc⟩
  cases c with
  | deployment =>
    obtain ⟨_, rfl⟩ := Server.deployment_eq_ok hw
    rfl
  | service | ingress =>
    cases hw
    rfl

theorem Child.controlledOnlyBy_merge_iff {c : Child} {w : c.kind.Object} (hw : c.wanted srv = .ok w)
    (live : c.kind.Object) : (c.kind.metadata (c.merge live w)).ControlledOnlyBy uid ↔
      (c.kind.metadata live).ControlledOnlyBy uid ∨ (c.kind.metadata live).Unclaimed uid := by
  obtain ⟨owner, hwanted, rfl, hc⟩ := owner_of_wanted hname huid hw
  rw [← ServerOperator.controlledOnlyBy_merge_iff hwanted hc]
  cases c <;> exact Iff.rfl

theorem Child.controlledOnlyBy_inSpace {c : Child} {w : c.kind.Object} (hw : c.wanted srv = .ok w) (space : String) :
    (c.kind.metadata (c.kind.inSpace w space)).ControlledOnlyBy uid := by
  obtain ⟨owner, hwanted, rfl, hc⟩ := owner_of_wanted hname huid hw
  have howners : (c.kind.metadata (c.kind.inSpace w space)).ownerReferences = some [owner] := by
    rw [← hwanted]
    cases c <;> rfl
  simp [Metadata.ControlledOnlyBy, Metadata.controllers, Metadata.owners, howners, hc]

/-- A merge makes the server the one controller of a child, on create always, and else exactly if it was before
or nobody was and the server was no owner. So does every application of the child that succeeds. -/
theorem control_is_gained_if_unclaimed {c : Child} {w : c.kind.Object} (hw : c.wanted srv = .ok w) :
    (∀ live, (c.kind.metadata (c.merge live w)).ControlledOnlyBy uid ↔
      (c.kind.metadata live).ControlledOnlyBy uid ∨ (c.kind.metadata live).Unclaimed uid) ∧
    ∀ s : MemoryStore, ((c.apply srv).run.run handler s).value = .ok () →
      ∃ o, ((c.apply srv).run.run handler s).state.object? c.kind srv.key = some o ∧
        ((c.kind.metadata o).ControlledOnlyBy uid ↔ ∀ live, s.object? c.kind srv.key = some live →
          (c.kind.metadata live).ControlledOnlyBy uid ∨ (c.kind.metadata live).Unclaimed uid) := by
  refine ⟨c.controlledOnlyBy_merge_iff hname huid hw, fun s hr => ?_⟩
  rcases c.apply_ends srv hw s with ⟨_, ht⟩ | ⟨hg, _⟩
  · obtain ⟨v, hv⟩ := MemoryStore.object?_settle srv s c hw
    refine ⟨_, (ht.object? ..).trans hv, ?_⟩
    have hversion (o : c.kind.Object) : (c.kind.metadata (c.kind.withVersion o v)).ControlledOnlyBy uid ↔
        (c.kind.metadata o).ControlledOnlyBy uid := by
      cases c <;> exact Iff.rfl
    rw [hversion]
    cases s.object? c.kind srv.key with
    | none => exact iff_of_true (c.controlledOnlyBy_inSpace hname huid hw srv.space) nofun
    | some live =>
      refine (c.controlledOnlyBy_merge_iff hname huid hw live).trans ⟨fun h _ e => ?_, fun h => h live rfl⟩
      cases e
      exact h
  · obtain ⟨e, he, _⟩ := hg.error
    rw [he] at hr
    cases hr

end

theorem control_is_gained_if_unclaimed_sample : ∃ d,
    ((Child.deployment.apply sampleServer).run.run handler sampleStore).state.object? .deployment sampleServer.key =
      some d ∧ (Kind.deployment.metadata d).ControlledOnlyBy "7f3a" := by
  obtain ⟨w, hw⟩ : ∃ w, sampleServer.deployment = .ok w := ⟨_, rfl⟩
  obtain ⟨d, hd, hcontrolled⟩ := (control_is_gained_if_unclaimed (c := .deployment)
    (rfl : sampleServer.metadata.name = some "search") (rfl : sampleServer.metadata.uid = some "7f3a") hw).2
    sampleStore rfl
  refine ⟨d, hd, hcontrolled.mpr fun live hlive => .inr ?_⟩
  cases hlive
  decide

def ownedService (owner : OwnerReference) : Service where
  metadata := { name := some "search", ns := some "tools", ownerReferences := some [owner] }

/-- An owner with the server's uid that is no controller stays the only owner, and the child without a
controller; a controller with another uid stays one, beside the server. -/
theorem control_may_be_missed_or_shared :
    let unflagged := ownedService { kind := "MCPServer", name := "search", uid := "7f3a" }
    let foreign := ownedService { kind := "MCPServer", name := "search", uid := "0c12", controller := some true }
    unflagged.metadata.controllers.length ≤ 1 ∧
      (unflagged.merge sampleServer.service).metadata.controllers = [] ∧
      foreign.metadata.controllers.length ≤ 1 ∧
      (foreign.merge sampleServer.service).metadata.controllers.map (·.uid) = ["0c12", "7f3a"] := by
  decide

end ServerOperator
