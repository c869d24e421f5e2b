import ServerOperator.Child.Deployment
import ServerOperator.Proofs.Trimming

/-!
# Faults of a spec

A pass gives up on a server for one of two reasons that lie in its spec: validation rejects it, or, once
nothing is left to fill in, one of its quantities is none. Filling in is done after one application and
never turns a valid spec into an invalid one.
-/

namespace ServerOperator

/-! ## Filling in -/

namespace ServerSpec

theorem fillPort_of_unfilled {d : Int32} {n : Option Int32} (h : (fillPort d n).2 = false) :
    (fillPort d n).1 = n := by
  unfold fillPort at h ⊢
  split
  · split
    · next hn => simp [hn] at h
    · rfl
  · simp at h

theorem fillText_of_unfilled {d : String} {t : Option String} (h : (fillText d t).2 = false) :
    (fillText d t).1 = t := by
  unfold fillText at h ⊢
  split
  · split
    · next ht => simp [ht] at h
    · rfl
  · simp at h

theorem fillPort_fillPort {d : Int32} (hd : d ≠ 0) (n : Option Int32) : (fillPort d (fillPort d n).1).2 = false := by
  unfold fillPort
  rcases n with _ | n
  · simp [hd]
  · by_cases h : n = 0 <;> simp [h, hd]

theorem fillText_fillText {d : String} (hd : Text.isBlank d = false) (t : Option String) :
    (fillText d (fillText d t).1).2 = false := by
  unfold fillText
  rcases t with _ | t
  · simp [hd]
  · by_cases h : Text.isBlank t <;> simp [h, hd]

theorem isBlank_ingressPath (name : String) : Text.isBlank (Default.ingressPath name) = false :=
  Text.isBlank_default '/' (by simp [Default.ingressPath]) (by decide)

section
variable (name : String) (s : ServerSpec)

theorem fillDefaults_fst : (s.fillDefaults name).1 = { s with
    replicas := some (s.replicas.getD Default.replicas)
    port := (fillPort Default.port s.port).1
    servicePort := (fillPort Default.servicePort s.servicePort).1
    imageTag := if Image.hasTag s.image then s.imageTag else (fillText Default.imageTag s.imageTag).1
    ingressPath := if name = "" then s.ingressPath else (fillText (Default.ingressPath name) s.ingressPath).1
    ingressClass := (fillText Default.ingressClass s.ingressClass).1 } := by
  cases hr : s.replicas <;> cases ht : Image.hasTag s.image <;> by_cases hn : name = "" <;>
    simp [fillDefaults, hr, ht, hn]

theorem fillDefaults_snd : (s.fillDefaults name).2 = (s.replicas.isNone ||
    (fillPort Default.port s.port).2 || (fillPort Default.servicePort s.servicePort).2 ||
    (if Image.hasTag s.image then false else (fillText Default.imageTag s.imageTag).2) ||
    (if name = "" then false else (fillText (Default.ingressPath name) s.ingressPath).2) ||
    (fillText Default.ingressClass s.ingressClass).2) := by
  cases hr : s.replicas <;> cases ht : Image.hasTag s.image <;> by_cases hn : name = "" <;>
    simp [fillDefaults, hr, ht, hn]

end

/-- What is complete is left as it is. -/
theorem fillDefaults_of_unfilled {name : String} {s : ServerSpec} (h : (s.fillDefaults name).2 = false) :
    (s.fillDefaults name).1 = s := by
  rw [fillDefaults_snd] at h
  simp only [Bool.or_eq_false_iff] at h
  obtain ⟨⟨⟨⟨⟨hr, hp⟩, hs⟩, ht⟩, hi⟩, hc⟩ := h
  have hr' : some (s.replicas.getD Default.replicas) = s.replicas := by
    cases e : s.replicas with
    | none => rw [e] at hr; cases hr
    | some n => rfl
  have ht' : (if Image.hasTag s.image then s.imageTag else (fillText Default.imageTag s.imageTag).1) = s.imageTag := by
    split at ht
    · next e => exact if_pos e
    · next e => rw [if_neg e, fillText_of_unfilled ht]
  have hi' : (if name = "" then s.ingressPath else (fillText (Default.ingressPath name) s.ingressPath).1) =
      s.ingressPath := by
    split at hi
    · next e => exact if_pos e
    · next e => rw [if_neg e, fillText_of_unfilled hi]
  rw [fillDefaults_fst, hr', ht', hi', fillPort_of_unfilled hp, fillPort_of_unfilled hs, fillText_of_unfilled hc]

theorem fillDefaults_fillDefaults (name : String) (s : ServerSpec) :
    ((s.fillDefaults name).1.fillDefaults name).2 = false := by
  have hp := fillPort_fillPort (d := Default.port) (by decide) s.port
  have hs := fillPort_fillPort (d := Default.servicePort) (by decide) s.servicePort
  have hc := fillText_fillText (d := Default.ingressClass) (by decide) s.ingressClass
  have ht := fillText_fillText (d := Default.imageTag) (by decide) s.imageTag
  have hi := fillText_fillText (isBlank_ingressPath name) s.ingressPath
  rw [fillDefaults_snd, fillDefaults_fst]
  simp only [Option.isNone_some, hp, hs, hc, Bool.false_or, Bool.or_false]
  by_cases h : Image.hasTag s.image <;> by_cases hn : name = "" <;> simp [h, hn, ht, hi]

end ServerSpec

namespace Server

theorem fillDefaults_of_unfilled {s : Server} (h : s.fillDefaults.2 = false) : s.fillDefaults.1 = s := by
  show { s with spec := (s.spec.fillDefaults s.name).1 } = s
  rw [ServerSpec.fillDefaults_of_unfilled h]

theorem fillDefaults_fillDefaults (s : Server) : s.fillDefaults.1.fillDefaults.2 = false :=
  ServerSpec.fillDefaults_fillDefaults s.name s.spec

theorem fillDefaults_eq_self_iff {s : Server} : s.fillDefaults.1 = s ↔ s.fillDefaults.2 = false := by
  refine ⟨fun h => ?_, fillDefaults_of_unfilled⟩
  rw [← h]
  exact s.fillDefaults_fillDefaults

end Server

/-! ## Validation -/

theorem Server.validate_eq_ok_iff {s : Server} : s.validate = .ok () ↔
    Text.isBlank s.spec.image = false ∧
      (Text.given? s.spec.ingressHost ≠ none → Text.given? s.spec.ingressPath ≠ none) := by
  unfold validate
  cases Text.isBlank s.spec.image with
  | true => simp
  | false =>
    cases Text.given? s.spec.ingressHost <;> cases Text.given? s.spec.ingressPath <;> simp

theorem Server.isValidation_of_validate {s : Server} {e : OperatorError} (h : s.validate = .error e) :
    e.isValidation = true := by
  unfold validate at h
  split at h
  · cases h; rfl
  · split at h
    · cases h; rfl
    · cases h

theorem ServerSpec.given?_ingressPath_fillDefaults {name : String} {s : ServerSpec}
    (h : Text.given? s.ingressPath ≠ none) : (s.fillDefaults name).1.ingressPath = s.ingressPath := by
  rw [fillDefaults_fst]
  obtain ⟨p, hp, hb⟩ : ∃ p, s.ingressPath = some p ∧ Text.isBlank p = false := by
    simpa [Text.given?_eq_none_iff] using h
  by_cases hn : name = "" <;> simp [hn, hp, fillText, hb]

/-- Filling in keeps a valid server valid. -/
theorem Server.validate_fillDefaults {s : Server} (h : s.validate = .ok ()) : s.fillDefaults.1.validate = .ok () := by
  rw [validate_eq_ok_iff] at h ⊢
  have himage : s.fillDefaults.1.spec.image = s.spec.image := by
    show (s.spec.fillDefaults s.name).1.image = _; rw [ServerSpec.fillDefaults_fst]
  have hhost : s.fillDefaults.1.spec.ingressHost = s.spec.ingressHost := by
    show (s.spec.fillDefaults s.name).1.ingressHost = _; rw [ServerSpec.fillDefaults_fst]
  refine ⟨by rw [himage]; exact h.1, fun hg => ?_⟩
  rw [hhost] at hg
  rw [show s.fillDefaults.1.spec.ingressPath = _ from ServerSpec.given?_ingressPath_fillDefaults (h.2 hg)]
  exact h.2 hg

/-! ## Quantities -/

def ServerSpec.quantities (s : ServerSpec) : List String :=
  let requests := s.resources.bind (·.requests)
  let limits := s.resources.bind (·.limits)
  [requests.bind (·.cpu), requests.bind (·.memory), limits.bind (·.cpu), limits.bind (·.memory)].filterMap id

def ServerSpec.QuantitiesValid (s : ServerSpec) : Prop :=
  ∀ q ∈ s.quantities, Text.isBlank q = false → Quantity.isValid q = true

theorem ServerSpec.not_quantitiesValid_iff {s : ServerSpec} : ¬ s.QuantitiesValid ↔
    ∃ q ∈ s.quantities, Text.isBlank q = false ∧ Quantity.isValid q = false := by
  simp [QuantitiesValid]

instance (s : ServerSpec) : Decidable s.QuantitiesValid :=
  inferInstanceAs (Decidable (∀ q ∈ _, _))

theorem Quantity.isValid_trim (q : String) : isValid (Text.trim q) = isValid q := by
  simp only [isValid, parse?, Text.trim_trim]

section
variable {d field : String} {kind : ErrorKind} {value : Option String} {e : OperatorError}

theorem quantityOr_ok_iff : (∃ q, quantityOr d kind field value = .ok q) ↔
    ∀ q ∈ value, Text.isBlank q = false → Quantity.isValid q = true := by
  rcases value with _ | q
  · simp [quantityOr, Text.given?]
  · cases hb : Text.isBlank q with
    | true => simp [quantityOr, Text.given?, Text.nonBlank?, hb]
    | false => cases hq : Quantity.isValid q <;>
        simp [quantityOr, Text.given?, Text.nonBlank?, hb, hq, Quantity.isValid_trim]

theorem kind_of_quantityOr (h : quantityOr d kind field value = .error e) : e.kind = kind := by
  unfold quantityOr at h
  split at h
  · cases h
  · split at h
    · cases h
    · cases h; rfl

end

theorem Except.bind_eq_error {ε α β : Type} {x : Except ε α} {f : α → Except ε β} {e : ε} (h : x >>= f = .error e) :
    x = .error e ∨ ∃ a, x = .ok a ∧ f a = .error e := by
  cases x with
  | error e' => cases h; exact .inl rfl
  | ok a => exact .inr ⟨a, rfl, h⟩

theorem Except.bind_eq_ok {ε α β : Type} {x : Except ε α} {f : α → Except ε β} {b : β} (h : x >>= f = .ok b) :
    ∃ a, x = .ok a ∧ f a = .ok b := by
  cases x with
  | error e => cases h
  | ok a => exact ⟨a, rfl, h⟩

theorem Except.map_eq_ok {ε α β : Type} {f : α → β} {x : Except ε α} {b : β} (h : x.map f = .ok b) :
    ∃ a, x = .ok a ∧ f a = b := by
  cases x <;> cases h
  exact ⟨_, rfl, rfl⟩

theorem Except.bind_ok_iff {ε α β : Type} {x : Except ε α} {f : α → Except ε β} :
    (∃ b, x >>= f = .ok b) ↔ ∃ a, x = .ok a ∧ ∃ b, f a = .ok b := by
  constructor
  · rintro ⟨b, h⟩
    obtain ⟨a, hx, hf⟩ := bind_eq_ok h
    exact ⟨a, hx, b, hf⟩
  · rintro ⟨a, rfl, h⟩
    exact h

theorem ServerSpec.resolve_ok_iff {s : ServerSpec} :
    (∃ r, ResourceRequirements.resolve s.resources = .ok r) ↔ s.QuantitiesValid := by
  have hpure : ∀ r : ContainerResources, ∃ r', (pure r : Except OperatorError ContainerResources) = .ok r' :=
    fun r => ⟨r, rfl⟩
  simp only [ResourceRequirements.resolve, Except.bind_ok_iff, hpure, and_true, exists_and_right, quantityOr_ok_iff]
  simp only [QuantitiesValid, quantities, List.mem_filterMap, List.mem_cons, List.not_mem_nil, or_false, id]
  constructor
  · rintro ⟨hcr, hmr, hcl, hml⟩ q ⟨a, rfl | rfl | rfl | rfl, hq⟩
    · exact hcr q hq
    · exact hmr q hq
    · exact hcl q hq
    · exact hml q hq
  · intro h
    exact ⟨fun q hq => h q ⟨_, .inl rfl, hq⟩, fun q hq => h q ⟨_, .inr (.inl rfl), hq⟩,
      fun q hq => h q ⟨_, .inr (.inr (.inl rfl)), hq⟩, fun q hq => h q ⟨_, .inr (.inr (.inr rfl)), hq⟩⟩

theorem quantityOr_of_resolve {r : Option ResourceRequirements} {e : OperatorError}
    (h : ResourceRequirements.resolve r = .error e) :
    ∃ d kind field value, kind.isValidation = true ∧ quantityOr d kind field value = .error e := by
  simp only [ResourceRequirements.resolve] at h
  rcases Except.bind_eq_error h with h | ⟨_, _, h⟩
  · exact ⟨_, _, _, _, rfl, h⟩
  rcases Except.bind_eq_error h with h | ⟨_, _, h⟩
  · exact ⟨_, _, _, _, rfl, h⟩
  rcases Except.bind_eq_error h with h | ⟨_, _, h⟩
  · exact ⟨_, _, _, _, rfl, h⟩
  rcases Except.bind_eq_error h with h | ⟨_, _, h⟩
  · exact ⟨_, _, _, _, rfl, h⟩
  · cases h

theorem isValidation_of_resolve {r : Option ResourceRequirements} {e : OperatorError}
    (h : ResourceRequirements.resolve r = .error e) : e.isValidation = true := by
  obtain ⟨_, kind, _, _, hk, h⟩ := quantityOr_of_resolve h
  rw [OperatorError.isValidation, kind_of_quantityOr h]
  exact hk

theorem ServerSpec.resolveImage_eq_error {s : ServerSpec} {e : OperatorError} (h : s.resolveImage = .error e) :
    e = { kind := .missingImage, message := imageRequired } := by
  unfold resolveImage at h
  split at h
  · cases h
    rfl
  · cases hr : Text.given? s.registryOverride <;> simp [hr] at h

/-! ## Wanted Deployments -/

namespace Server

variable {s : Server}

theorem container?_ok_iff (hi : Text.isBlank s.spec.image = false) :
    (∃ c, s.container? = .ok c) ↔ s.spec.QuantitiesValid := by
  obtain ⟨image, himage⟩ : ∃ image, s.spec.resolveImage = .ok image := by
    unfold ServerSpec.resolveImage
    simp only [Text.nonBlank?, hi]
    cases Text.given? s.spec.registryOverride <;> exact ⟨_, rfl⟩
  rw [← ServerSpec.resolve_ok_iff]
  have hc : s.container? = (s.container image).withResources s.spec.resources := by
    simp only [container?, himage]; rfl
  rw [hc, Container.withResources, Except.bind_ok_iff]
  constructor
  · rintro ⟨r, hr, _⟩; exact ⟨r, hr⟩
  · rintro ⟨r, hr⟩; exact ⟨r, hr, _, rfl⟩

theorem deployment_ok_iff (hi : Text.isBlank s.spec.image = false) :
    (∃ d, s.deployment = .ok d) ↔ s.spec.QuantitiesValid := by
  rw [← container?_ok_iff hi]
  unfold deployment
  cases s.container? with
  | ok c => exact ⟨fun _ => ⟨c, rfl⟩, fun _ => ⟨_, rfl⟩⟩
  | error e =>
    constructor
    · rintro ⟨d, h⟩; cases h
    · rintro ⟨c, h⟩; cases h

theorem deployment_eq_ok {d : Deployment} (h : s.deployment = .ok d) :
    ∃ c, d = { metadata := s.childMetadata, spec := some (s.deploymentSpec c) } := by
  unfold deployment at h
  split at h
  · next c _ => cases h; exact ⟨c, rfl⟩
  · cases h

theorem container?_eq_error {e : OperatorError} (h : s.container? = .error e) :
    s.spec.resolveImage = .error e ∨ ResourceRequirements.resolve s.spec.resources = .error e := by
  rcases Except.bind_eq_error h with h | ⟨image, _, h⟩
  · exact .inl h
  · rcases Except.bind_eq_error h with h | ⟨r, _, h⟩
    · exact .inr h
    · cases h

theorem isValidation_of_deployment {e : OperatorError} (h : s.deployment = .error e) : e.isValidation = true := by
  unfold deployment at h
  split at h
  · cases h
  next e' he =>
  cases h
  show e'.isValidation = true
  rcases container?_eq_error he with he | he
  · rw [ServerSpec.resolveImage_eq_error he]
    rfl
  · exact isValidation_of_resolve he

/-! ## Faults -/

/-- The error that a pass of the server ends with, whatever the store does once the server is read. -/
def fault? (s : Server) : Option OperatorError :=
  match s.validate with
  | .error e => some e
  | .ok () =>
    if s.fillDefaults.2 then none
    else
      match s.deployment with
      | .error e => some e
      | .ok _ => none

theorem fault?_eq_some_iff {e : OperatorError} : s.fault? = some e ↔
    s.validate = .error e ∨ s.validate = .ok () ∧ s.fillDefaults.2 = false ∧ s.deployment = .error e := by
  unfold fault?
  cases s.validate with
  | error e' => simp
  | ok u =>
    cases s.fillDefaults.2 with
    | true => simp
    | false => cases s.deployment <;> simp

theorem isValidation_of_fault {e : OperatorError} (h : s.fault? = some e) : e.isValidation = true := by
  rcases fault?_eq_some_iff.mp h with h | ⟨_, _, h⟩
  · exact isValidation_of_validate h
  · exact isValidation_of_deployment h

/-- A server is at fault if validation rejects it, or if it is complete but for an invalid quantity. -/
theorem exists_fault_iff : (∃ e, s.fault? = some e) ↔
    (∃ e, s.validate = .error e) ∨ s.fillDefaults.2 = false ∧ ¬ s.spec.QuantitiesValid := by
  simp only [fault?_eq_some_iff]
  cases hv : s.validate with
  | error e => exact ⟨fun _ => .inl ⟨e, rfl⟩, fun _ => ⟨e, .inl rfl⟩⟩
  | ok u =>
    have hi : Text.isBlank s.spec.image = false := (validate_eq_ok_iff.mp hv).1
    rw [← deployment_ok_iff hi]
    cases s.deployment <;> simp

theorem validate_of_fault (h : s.fault? = none) : s.validate = .ok () := by
  unfold fault? at h
  split at h
  · cases h
  · next hv => exact hv

theorem deployment_of_fault (h : s.fault? = none) (hd : s.fillDefaults.2 = false) : ∃ d, s.deployment = .ok d := by
  rw [deployment_ok_iff (validate_eq_ok_iff.mp (validate_of_fault h)).1]
  refine Classical.byContradiction fun hq => ?_
  obtain ⟨e, he⟩ := exists_fault_iff.mpr (.inr ⟨hd, hq⟩)
  rw [h] at he; cases he

theorem fault?_eq_none (hv : s.validate = .ok ()) (hq : s.spec.QuantitiesValid) : s.fault? = none := by
  refine Option.eq_none_iff_forall_ne_some.mpr fun e he => ?_
  rcases exists_fault_iff.mp ⟨e, he⟩ with ⟨e', he'⟩ | ⟨_, h⟩
  · rw [hv] at he'; cases he'
  · exact h hq

end Server

end ServerOperator
