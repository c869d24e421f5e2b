import ServerOperator.Proofs.Boundary

/-!
# Selectors and pod labels

A cluster refuses a Deployment whose selector does not match the pods made from its own template. The selector cannot
be changed, and a merge leaves it alone; but it puts the labels of the server over those of the template. So a
Deployment that was in order is in order afterwards unless its selector asks for other values of just these labels.
The operator's own Deployments never do.
-/

namespace ServerOperator

namespace Deployment

variable (d : Deployment)

def selector : LabelSelector := (d.spec.getD {}).selector

def selected? (key : String) : Option String := d.selector.matchLabels.bind (·.get? key)

def podLabel? (key : String) : Option String := d.podMetadata?.bind (·.label? key)

/-- The pods made from the template have all the labels that the selector lists. What it asks for besides is left out
of account. -/
def SelectsOwnPods : Prop := ∀ key value, d.selected? key = some value → d.podLabel? key = some value

/-- Of the labels that a server owns, the selector asks for no value but that of the server called `name`. -/
structure SelectorFits (name : String) : Prop where
  app : ∀ value, d.selected? "app" = some value → value = name
  managedBy : ∀ value, d.selected? "app.kubernetes.io/managed-by" = some value → value = "mcp-runtime"

end Deployment

/-! ## Merging -/

section
variable {srv : Server} {live wanted : Deployment}

theorem childLabels_cases {name key value : String} (h : (childLabels name).get? key = some value) :
    key = "app" ∧ value = name ∨ key = "app.kubernetes.io/managed-by" ∧ value = "mcp-runtime" := by
  unfold childLabels at h
  rw [SortedMap.get?_insert, SortedMap.get?_insert] at h
  split at h
  · next e => exact .inr ⟨e.symm, (Option.some.inj h).symm⟩
  · split at h
    · next e => exact .inl ⟨e.symm, (Option.some.inj h).symm⟩
    · cases h

theorem Deployment.selector_merge (hw : srv.deployment = .ok wanted) : (live.merge wanted).selector = live.selector := by
  obtain ⟨c, rfl⟩ := Server.deployment_eq_ok hw
  rfl

theorem Deployment.podLabel?_merge (hw : srv.deployment = .ok wanted) (key : String) :
    (live.merge wanted).podLabel? key = ((childLabels srv.name).get? key).or (live.podLabel? key) := by
  obtain ⟨c, rfl⟩ := Server.deployment_eq_ok hw
  have hlive : live.podLabel? key =
      (((live.spec.getD {}).template.metadata.getD {}).labels).bind (·.get? key) := by
    unfold podLabel? podMetadata?
    cases live.spec with
    | none => rfl
    | some spec => cases h : spec.template.metadata <;> simp [h, Metadata.label?]
  rw [hlive]
  exact get?_mergeEntries_eq_or _ (some (childLabels srv.name)) key

/-- A label of the template is the server's, or what it was. -/
theorem Deployment.selectsOwnPods_merge_iff (hw : srv.deployment = .ok wanted) (h : live.SelectsOwnPods) :
    (live.merge wanted).SelectsOwnPods ↔ live.SelectorFits srv.name := by
  have hselected (key : String) : (live.merge wanted).selected? key = live.selected? key := by
    rw [selected?, selector_merge hw, selected?]
  obtain ⟨happ, hmanaged⟩ := get?_childLabels srv.name
  constructor
  · intro hmerged
    constructor
    · intro value hvalue
      have hlabel := hmerged "app" value ((hselected _).trans hvalue)
      rw [podLabel?_merge hw, show (childLabels srv.name).get? "app" = _ from happ] at hlabel
      exact (Option.some.inj hlabel).symm
    · intro value hvalue
      have hlabel := hmerged _ value ((hselected _).trans hvalue)
      rw [podLabel?_merge hw, show (childLabels srv.name).get? "app.kubernetes.io/managed-by" = _ from hmanaged] at hlabel
      exact (Option.some.inj hlabel).symm
  · intro hfits key value hvalue
    rw [hselected] at hvalue
    rw [podLabel?_merge hw]
    cases hown : (childLabels srv.name).get? key with
    | none => exact h key value hvalue
    | some own =>
      -- The template gets the server's value, which is the one that the selector asks for.
      rcases childLabels_cases hown with ⟨rfl, rfl⟩ | ⟨rfl, rfl⟩
      · rw [hfits.app value hvalue, Option.some_or]
      · rw [hfits.managedBy value hvalue, Option.some_or]

end

/-! ## Deployments made by the operator -/

section
variable {srv : Server} {d wanted : Deployment}

/-- The selector of a new Deployment asks for the name of its server and nothing else. -/
theorem selected?_of_deployment (hd : srv.deployment = .ok d) (key : String) :
    d.selected? key = if "app" = key then some srv.name else none := by
  obtain ⟨c, rfl⟩ := Server.deployment_eq_ok hd
  exact SortedMap.get?_insert ∅ "app" key srv.name

theorem selectorFits_of_deployment (hd : srv.deployment = .ok d) : d.SelectorFits srv.name := by
  constructor
  · intro value h
    rw [selected?_of_deployment hd] at h
    exact (Option.some.inj h).symm
  · intro value h
    rw [selected?_of_deployment hd, if_neg (by decide)] at h
    cases h

theorem selectsOwnPods_of_deployment (hd : srv.deployment = .ok d) : d.SelectsOwnPods := by
  intro key value h
  rw [selected?_of_deployment hd] at h
  split at h
  · next e =>
    obtain ⟨c, rfl⟩ := Server.deployment_eq_ok hd
    rw [← e, ← h]
    exact (get?_childLabels srv.name).1
  · cases h

theorem Deployment.SelectorFits.merge {name : String} (hw : srv.deployment = .ok wanted) (h : d.SelectorFits name) :
    (d.merge wanted).SelectorFits name := by
  obtain ⟨happ, hmanaged⟩ := h
  constructor <;> rw [selected?, selector_merge hw]
  · exact happ
  · exact hmanaged

/-- However the spec of a server is changed, its Deployment stays in order. -/
theorem own_deployment_selects_own_pods {srv : Server} {made : Deployment} (hmade : srv.deployment = .ok made)
    (later : List Deployment) (hlater : ∀ w ∈ later, ∃ srv' : Server, srv'.name = srv.name ∧ srv'.deployment = .ok w) :
    (later.foldl Deployment.merge made).SelectsOwnPods := by
  have hkeeps : ∀ (later : List Deployment) (d : Deployment), d.SelectsOwnPods → d.SelectorFits srv.name →
      (∀ w ∈ later, ∃ srv' : Server, srv'.name = srv.name ∧ srv'.deployment = .ok w) →
      (later.foldl Deployment.merge d).SelectsOwnPods := by
    intro later
    induction later with
    | nil => exact fun d hd _ _ => hd
    | cons w later ih =>
      intro d hd hfits hlater
      obtain ⟨⟨srv', hname, hw⟩, hlater⟩ := List.forall_mem_cons.mp hlater
      have hmerged := (Deployment.selectsOwnPods_merge_iff hw hd).mpr (hname ▸ hfits)
      exact ih _ hmerged (hfits.merge hw) hlater
  exact hkeeps later made (selectsOwnPods_of_deployment hmade) (selectorFits_of_deployment hmade) hlater

end

/-! ## Updates -/

/-- The calls for a child that is there: it is read, and replaced by the merge unless that changes nothing. -/
theorem Child.calls_apply {σ : Type} {handler : Program.Handler σ} {s t : σ} {srv : Server} {c : Child}
    {w live : c.kind.Object} (hw : c.wanted srv = .ok w)
    (hread : handler s (.get c.kind srv.key) = (.ok (some live), t)) :
    (c.apply srv).run.calls handler s = ⟨.get c.kind srv.key, .ok (some live)⟩ ::
      if c.merge live w = live then []
      else [⟨.replace c.kind srv.key (c.merge live w), (handler t (.replace c.kind srv.key (c.merge live w))).1⟩] := by
  rw [apply, hw]
  show (Attempt.call (.get c.kind srv.key) (c.callFailed srv "get") >>= _).run.calls handler s = _
  rw [Attempt.calls_call hread]
  refine congrArg (List.cons _) ?_
  by_cases h : c.merge live w = live
  · simp only [h, if_true]
    rfl
  · simp only [h, if_false]
    -- Whatever the answer is, nothing is called after it.
    show (⟨.replace c.kind srv.key (c.merge live w), _⟩ : CallRecord) :: _ = _
    refine congrArg (List.cons _) ?_
    cases (handler t (.replace c.kind srv.key (c.merge live w))).1 <;> rfl

/-- A merge leaves the selector of a Deployment as it is. If the Deployment was in order it is so afterwards exactly if
its selector fits the server, and so is the update that is sent for it. -/
theorem merged_selects_own_pods_iff {srv : Server} {live wanted : Deployment} (hw : srv.deployment = .ok wanted)
    (h : live.SelectsOwnPods) :
    (live.merge wanted).selector = live.selector ∧
      ((live.merge wanted).SelectsOwnPods ↔ live.SelectorFits srv.name) ∧
      ∀ {σ : Type} (handler : Program.Handler σ) (s t : σ),
        handler s (.get .deployment srv.key) = (.ok (some live), t) →
          ∀ x ∈ (Child.deployment.apply srv).run.calls handler s, ∀ key (sent : Deployment),
            x.call = .replace .deployment key sent → (sent.SelectsOwnPods ↔ live.SelectorFits srv.name) := by
  have hmerge := Deployment.selectsOwnPods_merge_iff hw h
  refine ⟨Deployment.selector_merge hw, hmerge, fun handler s t hread x hx key sent hcall => ?_⟩
  rw [Child.calls_apply (c := .deployment) hw hread] at hx
  rcases List.mem_cons.mp hx with rfl | hx
  · cases hcall
  · split at hx
    · cases hx
    · cases List.mem_singleton.mp hx
      cases hcall
      exact hmerge

def labelledDeployment (selected rest : SortedMap String) : Deployment where
  metadata := { name := some "search", ns := some "tools" }
  spec := some {
    selector := { matchLabels := some selected }
    template := { metadata := some { labels := some (rest.union selected) } } }

theorem labelledDeployment_selectsOwnPods (selected rest : SortedMap String) :
    (labelledDeployment selected rest).SelectsOwnPods := by
  intro key value h
  show (rest.union selected).get? key = some value
  rw [SortedMap.get?_union, show selected.get? key = some value from h, Option.some_or]

/-- The selector asks for the server's name and for a label of somebody else's, and another managing tool is on
record. -/
theorem merged_selects_own_pods_iff_sample : ∃ wanted, sampleServer.deployment = .ok wanted ∧
    ((labelledDeployment ((∅ : SortedMap String).insert "app" "search" |>.insert "tier" "tools")
      ((∅ : SortedMap String).insert "app.kubernetes.io/managed-by" "helm")).merge wanted).SelectsOwnPods := by
  obtain ⟨wanted, hw⟩ : ∃ wanted, sampleServer.deployment = .ok wanted := ⟨_, rfl⟩
  refine ⟨wanted, hw, (merged_selects_own_pods_iff hw (labelledDeployment_selectsOwnPods _ _)).2.1.mpr ⟨?_, ?_⟩⟩
  · intro value h
    exact (Option.some.inj h).symm
  · intro value h
    cases h

/-- A Deployment of somebody else's that happens to have the server's name selects its pods by another value of the
label that the server owns. -/
theorem foreign_selector_loses_its_pods : ¬ ∀ (srv : Server) (live wanted : Deployment),
    srv.deployment = .ok wanted → live.SelectsOwnPods → (live.merge wanted).SelectsOwnPods := by
  intro h
  obtain ⟨wanted, hw⟩ : ∃ wanted, sampleServer.deployment = .ok wanted := ⟨_, rfl⟩
  have hlive := labelledDeployment_selectsOwnPods ((∅ : SortedMap String).insert "app" "old") ∅
  have hfits := (Deployment.selectsOwnPods_merge_iff hw hlive).mp (h _ _ _ hw hlive)
  have hname := hfits.app "old" rfl
  exact absurd hname (by decide)

end ServerOperator
