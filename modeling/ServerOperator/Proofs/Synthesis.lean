import ServerOperator.Proofs.Blame
import ServerOperator.Proofs.Limits
import ServerOperator.Proofs.References

/-!
# The first invalid quantity

The four quantities of a container are looked at in order, and before anything is written. An invalid one is all that
can go wrong with the objects made for a valid server, and the error names the first one; without an invalid one each
quantity is what was given for it, or else its own default.
-/

namespace ServerOperator

open Text (isBlank given? trim)

inductive QuantityField where
  | cpuRequest
  | memoryRequest
  | cpuLimit
  | memoryLimit
  deriving DecidableEq

namespace QuantityField

/-- In the order in which they are looked at. -/
def all : List QuantityField := [cpuRequest, memoryRequest, cpuLimit, memoryLimit]

def kind : QuantityField → ErrorKind
  | cpuRequest => .invalidCpuRequest
  | memoryRequest => .invalidMemoryRequest
  | cpuLimit => .invalidCpuLimit
  | memoryLimit => .invalidMemoryLimit

def path : QuantityField → String
  | cpuRequest => "resources.requests.cpu"
  | memoryRequest => "resources.requests.memory"
  | cpuLimit => "resources.limits.cpu"
  | memoryLimit => "resources.limits.memory"

def default : QuantityField → String
  | cpuRequest => "100m"
  | memoryRequest => "128Mi"
  | cpuLimit => "500m"
  | memoryLimit => "512Mi"

section
variable (r : Option ResourceRequirements) (f : QuantityField)

def given : Option String :=
  match f with
  | cpuRequest => (r.bind (·.requests)).bind (·.cpu)
  | memoryRequest => (r.bind (·.requests)).bind (·.memory)
  | cpuLimit => (r.bind (·.limits)).bind (·.cpu)
  | memoryLimit => (r.bind (·.limits)).bind (·.memory)

def isInvalid : Bool := (f.given r).any fun q => !isBlank q && !Quantity.isValid q

def value : String :=
  match f.given r with
  | some q => if isBlank q then f.default else trim q
  | none => f.default

structure Names (q : String) (e : OperatorError) : Prop where
  kind : e.kind = f.kind
  message : e.message = f.path ++ " '" ++ trim q ++ "' is not a valid quantity"
  field : e.context.get? "field" = some f.path
  value : e.context.get? "value" = some (trim q)

end

theorem mem_all (f : QuantityField) : f ∈ all := by
  cases f <;> decide

theorem isValidation_kind (f : QuantityField) : f.kind.isValidation = true := by
  cases f <;> rfl

section
variable {r : Option ResourceRequirements} {f : QuantityField}

theorem find?_eq_none_iff : all.find? (isInvalid r) = none ↔ ∀ f : QuantityField, f.isInvalid r = false := by
  rw [List.find?_eq_none]
  constructor
  · intro h f
    exact Bool.eq_false_iff.mpr (h f f.mem_all)
  · intro h f _
    rw [h f]
    decide

theorem isInvalid_of_find? (h : all.find? (isInvalid r) = some f) : f.isInvalid r = true :=
  List.find?_some h

theorem valid_before (h : all.find? (isInvalid r) = some f) : ∀ g ∈ all.takeWhile (· ≠ f), g.isInvalid r = false := by
  obtain ⟨hf, before, after, hall, hbefore⟩ := List.find?_eq_some_iff_append.mp h
  have hne : ∀ g ∈ before, decide (g ≠ f) = true := by
    intro g hg
    rw [decide_eq_true_eq]
    rintro rfl
    simpa [hf] using hbefore g hg
  intro g hg
  rw [hall, List.takeWhile_append_of_pos hne, List.takeWhile_cons_of_neg (by simp), List.append_nil] at hg
  simpa using hbefore g hg

theorem Names.isValidation {q : String} {e : OperatorError} (h : f.Names q e) : e.isValidation = true := by
  rw [OperatorError.isValidation, h.kind]
  exact f.isValidation_kind

/-- The context that the server is added with has other keys. -/
theorem Names.withContext {q k v : String} {e : OperatorError} (h : f.Names q e) (hfield : k ≠ "field")
    (hvalue : k ≠ "value") : f.Names q (e.withContext k v) := by
  obtain ⟨hk, hm, hf, hv⟩ := h
  constructor
  · exact hk
  · exact hm
  · rw [OperatorError.get?_withContext, if_neg hfield, hf]
  · rw [OperatorError.get?_withContext, if_neg hvalue, hv]

/-! ## One quantity -/

def quantity (r : Option ResourceRequirements) (f : QuantityField) : Except OperatorError String :=
  quantityOr f.default f.kind f.path (f.given r)

theorem quantity_of_valid (h : f.isInvalid r = false) : f.quantity r = .ok (f.value r) := by
  unfold quantity quantityOr value
  unfold isInvalid at h
  cases hq : f.given r with
  | none => rfl
  | some q =>
    cases hb : isBlank q with
    | true => simp [given?, Text.nonBlank?, hb]
    | false =>
      rw [hq, Option.any_some, hb] at h
      have hvalid : Quantity.isValid q = true := by simpa using h
      simp [given?, Text.nonBlank?, hb, Quantity.isValid_trim, hvalid]

theorem quantity_of_invalid (h : f.isInvalid r = true) :
    ∃ q e, f.given r = some q ∧ f.quantity r = .error e ∧ f.Names q e := by
  obtain ⟨q, hq, hinvalid⟩ := (Option.any_eq_true ..).mp h
  simp only [Bool.and_eq_true, Bool.not_eq_true'] at hinvalid
  obtain ⟨hb, hv⟩ := hinvalid
  have hgiven : given? (f.given r) = some (trim q) := by
    rw [hq, given?, Option.bind_some, Text.nonBlank?, hb]
    rfl
  have hrefused : ¬ Quantity.isValid (trim q) = true := by simp [Quantity.isValid_trim, hv]
  unfold quantity quantityOr
  rw [hgiven]
  dsimp only
  rw [if_neg hrefused]
  refine ⟨q, _, hq, rfl, rfl, rfl, ?_, ?_⟩
  · rw [OperatorError.get?_withContext, OperatorError.get?_withContext]
    rfl
  · rw [OperatorError.get?_withContext]
    rfl

end

end QuantityField

/-! ## All of them -/

open QuantityField (cpuRequest memoryRequest cpuLimit memoryLimit)

def QuantityField.resources (r : Option ResourceRequirements) : ContainerResources where
  requests := some (cpuAndMemory (cpuRequest.value r) (memoryRequest.value r))
  limits := some (cpuAndMemory (cpuLimit.value r) (memoryLimit.value r))

section
variable {r : Option ResourceRequirements}

theorem resolve_eq_bind (r : Option ResourceRequirements) : ResourceRequirements.resolve r = do
    let cpu ← cpuRequest.quantity r
    let memory ← memoryRequest.quantity r
    let cpu' ← cpuLimit.quantity r
    let memory' ← memoryLimit.quantity r
    return { requests := some (cpuAndMemory cpu memory), limits := some (cpuAndMemory cpu' memory') } :=
  rfl

theorem resolve_of_valid (h : ∀ f : QuantityField, f.isInvalid r = false) :
    ResourceRequirements.resolve r = .ok (QuantityField.resources r) := by
  rw [resolve_eq_bind]
  simp only [fun f => QuantityField.quantity_of_valid (h f)]
  rfl

theorem resolve_of_invalid {f : QuantityField} (h : QuantityField.all.find? (QuantityField.isInvalid r) = some f) :
    ∃ q e, f.given r = some q ∧ ResourceRequirements.resolve r = .error e ∧ f.Names q e := by
  obtain ⟨q, e, hq, he, hnames⟩ := QuantityField.quantity_of_invalid (QuantityField.isInvalid_of_find? h)
  refine ⟨q, e, hq, ?_, hnames⟩
  have hvalid {g : QuantityField} (hg : g ∈ QuantityField.all.takeWhile (· ≠ f)) :=
    QuantityField.quantity_of_valid (QuantityField.valid_before h g hg)
  rw [resolve_eq_bind]
  cases f with
  | cpuRequest =>
    rw [he]
    rfl
  | memoryRequest =>
    rw [hvalid (by decide : cpuRequest ∈ _), he]
    rfl
  | cpuLimit =>
    rw [hvalid (by decide : cpuRequest ∈ _), hvalid (by decide : memoryRequest ∈ _), he]
    rfl
  | memoryLimit =>
    rw [hvalid (by decide : cpuRequest ∈ _), hvalid (by decide : memoryRequest ∈ _),
      hvalid (by decide : cpuLimit ∈ _), he]
    rfl

inductive ResourcesApplied (r : Option ResourceRequirements) (c : Container) :
    Except OperatorError Unit × Container → Prop where
  | refused {f : QuantityField} {q : String} {e : OperatorError}
    (first : QuantityField.all.find? (QuantityField.isInvalid r) = some f) (given : f.given r = some q)
    (names : f.Names q e) : ResourcesApplied r c (.error e, c)
  | written (valid : ∀ f : QuantityField, f.isInvalid r = false) :
    ResourcesApplied r c (.ok (), { c with resources := some (QuantityField.resources r) })

theorem applyResources_run (c : Container) (r : Option ResourceRequirements) :
    (Container.applyResources r).run.run c =
      match c.withResources r with
      | .ok changed => (.ok (), changed)
      | .error e => (.error e, c) := by
  unfold Container.applyResources Container.withResources
  cases ResourceRequirements.resolve r <;> rfl

theorem resourcesApplied (c : Container) (r : Option ResourceRequirements) :
    ResourcesApplied r c ((Container.applyResources r).run.run c) := by
  rw [applyResources_run, Container.withResources]
  cases hfind : QuantityField.all.find? (QuantityField.isInvalid r) with
  | none =>
    have hvalid := QuantityField.find?_eq_none_iff.mp hfind
    rw [resolve_of_valid hvalid]
    exact .written hvalid
  | some f =>
    obtain ⟨q, e, hq, he, hnames⟩ := resolve_of_invalid hfind
    rw [he]
    exact .refused hfind hq hnames

end

/-! ## Deployments -/

section
variable {s : Server}

theorem Server.deployment_of_invalid (hi : isBlank s.spec.image = false) {f : QuantityField}
    (h : QuantityField.all.find? (QuantityField.isInvalid s.spec.resources) = some f) :
    ∃ q e, f.given s.spec.resources = some q ∧ s.deployment = .error e ∧ f.Names q e := by
  obtain ⟨q, e, hq, he, hnames⟩ := resolve_of_invalid h
  have hcontainer : s.container? = .error e := by
    rw [container?, ServerSpec.resolveImage_eq (if_neg (by simp [hi]))]
    simp only [Container.withResources, he]
    rfl
  refine ⟨q, _, hq, by rw [deployment, hcontainer], ?_⟩
  exact ((hnames.withContext (by decide) (by decide)).withContext (by decide) (by decide)).withContext (by decide)
    (by decide)

/-- Once there is an image, a Deployment is made or the first invalid quantity is reported. -/
theorem Server.deployment_cases (hi : isBlank s.spec.image = false) :
    ((∀ f : QuantityField, f.isInvalid s.spec.resources = false) ∧ ∃ d, s.deployment = .ok d) ∨
      ∃ f q e, QuantityField.all.find? (QuantityField.isInvalid s.spec.resources) = some f ∧
        f.given s.spec.resources = some q ∧ s.deployment = .error e ∧ f.Names q e := by
  cases hfind : QuantityField.all.find? (QuantityField.isInvalid s.spec.resources) with
  | none =>
    have hvalid := QuantityField.find?_eq_none_iff.mp hfind
    refine .inl ⟨hvalid, ?_⟩
    rw [deployment_ok_iff hi, ← ServerSpec.resolve_ok_iff]
    exact ⟨_, resolve_of_valid hvalid⟩
  | some f =>
    obtain ⟨q, e, hq, he, hnames⟩ := deployment_of_invalid hi hfind
    exact .inr ⟨f, q, e, rfl, hq, he, hnames⟩

end

/-- For a server that passes validation the Service and the Ingress can be made, and so can the Deployment unless a
quantity is invalid; then the error is about the first one. No container is left with a part of its resources. -/
theorem synthesis_stops_at_first_invalid_quantity {s : Server} (hv : s.validate = .ok ()) :
    (∀ c : Child, c ≠ .deployment → ∃ o, c.wanted s = .ok o) ∧
      ((∃ e, s.deployment = .error e) ↔ ∃ f : QuantityField, f.isInvalid s.spec.resources = true) ∧
      (∀ e, s.deployment = .error e → ∃ f q,
        QuantityField.all.find? (QuantityField.isInvalid s.spec.resources) = some f ∧
          f.given s.spec.resources = some q ∧ f.Names q e ∧ e.isValidation = true) ∧
      ∀ (c : Container) (r : Option ResourceRequirements),
        ResourcesApplied r c ((Container.applyResources r).run.run c) := by
  have hcases := Server.deployment_cases (Server.validate_eq_ok_iff.mp hv).1
  refine ⟨fun c hc => ?_, ⟨?_, ?_⟩, fun e he => ?_, resourcesApplied⟩
  · cases c with
    | deployment => exact absurd rfl hc
    | service | ingress => exact ⟨_, rfl⟩
  · rintro ⟨e, he⟩
    rcases hcases with ⟨_, d, hd⟩ | ⟨f, _, _, hf, _⟩
    · cases hd.symm.trans he
    · exact ⟨f, QuantityField.isInvalid_of_find? hf⟩
  · rintro ⟨f, hf⟩
    rcases hcases with ⟨hvalid, _⟩ | ⟨_, _, e, _, _, he, _⟩
    · rw [hvalid f] at hf
      cases hf
    · exact ⟨e, he⟩
  · rcases hcases with ⟨_, d, hd⟩ | ⟨f, q, e', hf, hq, he', hnames⟩
    · cases hd.symm.trans he
    · cases he.symm.trans he'
      exact ⟨f, q, hf, hq, hnames, hnames.isValidation⟩

def twiceInvalid : Server where
  metadata := { name := some "search", ns := some "tools" }
  spec := {
    image := "search"
    resources := some {
      requests := some { cpu := some " ", memory := some "256Mi" }
      limits := some { cpu := some " -1\n", memory := some "big" } } }

theorem synthesis_stops_at_first_invalid_quantity_sample : twiceInvalid.validate = .ok () ∧
    ∃ e, twiceInvalid.deployment = .error e ∧ e.kind = .invalidCpuLimit ∧ e.context.get? "value" = some "-1" ∧
      ∀ c : Container, ((Container.applyResources twiceInvalid.spec.resources).run.run c).2 = c := by
  have hv : twiceInvalid.validate = .ok () := by decide
  have hfirst : QuantityField.all.find? (QuantityField.isInvalid twiceInvalid.spec.resources) =
      some QuantityField.cpuLimit := by decide
  obtain ⟨_, hfails, hnames, happlied⟩ := synthesis_stops_at_first_invalid_quantity hv
  obtain ⟨e, he⟩ := hfails.mpr ⟨QuantityField.cpuLimit, QuantityField.isInvalid_of_find? hfirst⟩
  obtain ⟨f, q, hf, hq, hnames, _⟩ := hnames e he
  cases hfirst.symm.trans hf
  cases (rfl : QuantityField.cpuLimit.given twiceInvalid.spec.resources = some " -1\n").symm.trans hq
  refine ⟨hv, e, he, hnames.kind, hnames.value, fun c => ?_⟩
  cases happlied c twiceInvalid.spec.resources
  rfl

end ServerOperator
