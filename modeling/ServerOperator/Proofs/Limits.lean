import Mathlib.Algebra.Field.Rat
import Mathlib.Algebra.Order.Ring.Rat
import ServerOperator.Proofs.Faults

/-!
# Requests and limits

The cluster refuses a container that requests more than its limit. Defaults are filled in one by one, without a
look at the other side, so a request or a limit that is given alone can be at odds with the default of the other.
That nothing else can go wrong is proved of the amounts that the texts stand for, as exact numbers.
-/

namespace ServerOperator

open Text (isBlank given?)

/-! ## Amounts -/

/-- The distance of a decimal digit from the zero of its script. -/
def Text.digitValue (c : Char) : Nat :=
  ((decimalZeros.find? fun z => z ≤ c.toNat && c.toNat < z + 10).map (c.toNat - ·)).getD 0

def Text.digitsValue (cs : List Char) : Nat := cs.foldl (fun n c => 10 * n + digitValue c) 0

def Scale.factor : Scale → ℚ
  | si power => 10 ^ power
  | binary power => 1024 ^ power
  | exponent negative digits =>
    if negative then (10 ^ Text.digitsValue digits)⁻¹ else 10 ^ Text.digitsValue digits

namespace Quantity

def amount (q : Quantity) : ℚ :=
  (Text.digitsValue q.whole + Text.digitsValue q.fraction / 10 ^ q.fraction.length) * q.scale.factor

def amount? (text : String) : Option ℚ := (parse? text).map amount

theorem isSome_amount? (text : String) : (amount? text).isSome = isValid text := Option.isSome_map

end Quantity

/-! ## What is given and what is written -/

inductive Resource where
  | cpu
  | memory
  deriving DecidableEq

namespace Resource

def name : Resource → String
  | cpu => "cpu"
  | memory => "memory"

def quantity? (l : ResourceList) : Resource → Option String
  | cpu => l.cpu
  | memory => l.memory

def requestText : Resource → String
  | cpu => Default.cpuRequest
  | memory => Default.memoryRequest

def limitText : Resource → String
  | cpu => Default.cpuLimit
  | memory => Default.memoryLimit

def defaultRequest : Resource → ℚ
  | cpu => 1 / 10
  | memory => 128 * 1024 ^ 2

def defaultLimit : Resource → ℚ
  | cpu => 1 / 2
  | memory => 512 * 1024 ^ 2

variable (res : Resource)

theorem amount?_requestText : Quantity.amount? res.requestText = some res.defaultRequest := by
  cases res <;> decide +kernel

theorem amount?_limitText : Quantity.amount? res.limitText = some res.defaultLimit := by
  cases res <;> decide +kernel

theorem defaultRequest_le_defaultLimit : res.defaultRequest ≤ res.defaultLimit := by
  cases res <;> decide +kernel

/-- What is given alone agrees with the default of what is not. -/
def Fits : (request limit : Option ℚ) → Prop
  | some request, none => request ≤ res.defaultLimit
  | none, some limit => res.defaultRequest ≤ limit
  | _, _ => True

instance (request limit : Option ℚ) : Decidable (res.Fits request limit) :=
  match request, limit with
  | some request, none => inferInstanceAs (Decidable (request ≤ res.defaultLimit))
  | none, some limit => inferInstanceAs (Decidable (res.defaultRequest ≤ limit))
  | none, none => .isTrue trivial
  | some _, some _ => .isTrue trivial

end Resource

namespace ServerSpec

variable (s : ServerSpec) (res : Resource)

def request? : Option String := (s.resources.bind (·.requests)).bind res.quantity?

def limit? : Option String := (s.resources.bind (·.limits)).bind res.quantity?

def requested : Option ℚ := (given? (s.request? res)).bind Quantity.amount?

def limited : Option ℚ := (given? (s.limit? res)).bind Quantity.amount?

def Ordered : Prop := ∀ res, ∀ request ∈ s.requested res, ∀ limit ∈ s.limited res, request ≤ limit

end ServerSpec

namespace ContainerResources

variable (r : ContainerResources) (res : Resource)

def requested : Option ℚ := (r.requests.bind (·.get? res.name)).bind Quantity.amount?

def limited : Option ℚ := (r.limits.bind (·.get? res.name)).bind Quantity.amount?

def Within : Prop := ∃ request ∈ r.requested res, ∃ limit ∈ r.limited res, request ≤ limit

end ContainerResources

/-! ## The amounts of a container -/

section
variable {value : Option String} (h : ∀ q ∈ value, isBlank q = false → Quantity.isValid q = true)
include h

theorem isValid_of_given {q : String} (hq : given? value = some q) : Quantity.isValid q = true := by
  obtain ⟨v, rfl, hv⟩ := Option.bind_eq_some_iff.mp hq
  unfold Text.nonBlank? at hv
  split at hv
  · cases hv
  · next hb =>
    cases hv
    rw [Quantity.isValid_trim]
    exact h v rfl (Bool.eq_false_iff.mpr hb)

theorem quantityOr_of_valid {d field : String} {kind : ErrorKind} :
    quantityOr d kind field value = .ok ((given? value).getD d) := by
  unfold quantityOr
  cases hq : given? value with
  | none => rfl
  | some q => exact if_pos (isValid_of_given h hq)

/-- What is written amounts to what is given, or else to the default. -/
theorem amount?_getD {d : String} {x : ℚ} (hd : Quantity.amount? d = some x) :
    Quantity.amount? ((given? value).getD d) = some (((given? value).bind Quantity.amount?).getD x) := by
  cases hq : given? value with
  | none => exact hd
  | some q =>
    obtain ⟨y, hy⟩ : ∃ y, Quantity.amount? q = some y := by
      rw [← Option.isSome_iff_exists, Quantity.isSome_amount?, isValid_of_given h hq]
    rw [Option.getD_some, Option.bind_some, hy, Option.getD_some]

end

namespace ServerSpec

variable {s : ServerSpec}

theorem QuantitiesValid.given (h : s.QuantitiesValid) (res : Resource) :
    (∀ q ∈ s.request? res, isBlank q = false → Quantity.isValid q = true) ∧
      ∀ q ∈ s.limit? res, isBlank q = false → Quantity.isValid q = true := by
  have hmem (q : String) : q ∈ s.request? res ∨ q ∈ s.limit? res → q ∈ s.quantities := by
    simp only [quantities, List.mem_filterMap, List.mem_cons, List.not_mem_nil, or_false, id]
    cases res with
    | cpu => exact fun hq => hq.elim (fun hq => ⟨_, .inl rfl, hq⟩) fun hq => ⟨_, .inr (.inr (.inl rfl)), hq⟩
    | memory => exact fun hq => hq.elim (fun hq => ⟨_, .inr (.inl rfl), hq⟩) fun hq => ⟨_, .inr (.inr (.inr rfl)), hq⟩
  exact ⟨fun q hq => h q (hmem q (.inl hq)), fun q hq => h q (hmem q (.inr hq))⟩

def written (s : ServerSpec) : ContainerResources where
  requests := some (cpuAndMemory ((given? (s.request? .cpu)).getD Default.cpuRequest)
    ((given? (s.request? .memory)).getD Default.memoryRequest))
  limits := some (cpuAndMemory ((given? (s.limit? .cpu)).getD Default.cpuLimit)
    ((given? (s.limit? .memory)).getD Default.memoryLimit))

theorem resolve_eq_written (h : s.QuantitiesValid) : ResourceRequirements.resolve s.resources = .ok s.written := by
  have hcpu := h.given .cpu
  have hmemory := h.given .memory
  simp only [request?, limit?, Resource.quantity?] at hcpu hmemory
  simp only [ResourceRequirements.resolve, quantityOr_of_valid hcpu.1, quantityOr_of_valid hmemory.1,
    quantityOr_of_valid hcpu.2, quantityOr_of_valid hmemory.2]
  rfl

theorem written_requested (h : s.QuantitiesValid) (res : Resource) :
    s.written.requested res = some ((s.requested res).getD res.defaultRequest) := by
  have hd := res.amount?_requestText
  rw [requested, ← amount?_getD (h.given res).1 hd]
  cases res <;> simp [ContainerResources.requested, written, cpuAndMemory, Resource.name, Resource.requestText]

theorem written_limited (h : s.QuantitiesValid) (res : Resource) :
    s.written.limited res = some ((s.limited res).getD res.defaultLimit) := by
  have hd := res.amount?_limitText
  rw [limited, ← amount?_getD (h.given res).2 hd]
  cases res <;> simp [ContainerResources.limited, written, cpuAndMemory, Resource.name, Resource.limitText]

end ServerSpec

/-- What is given alone decides whether what is written is in order. -/
theorem written_within_iff {s : ServerSpec} (hvalid : s.QuantitiesValid) (hordered : s.Ordered) (res : Resource) :
    s.written.Within res ↔ res.Fits (s.requested res) (s.limited res) := by
  have hwithin : s.written.Within res ↔
      (s.requested res).getD res.defaultRequest ≤ (s.limited res).getD res.defaultLimit := by
    simp [ContainerResources.Within, ServerSpec.written_requested hvalid, ServerSpec.written_limited hvalid]
  rw [hwithin]
  cases hr : s.requested res with
  | none =>
    cases hl : s.limited res with
    | none => exact iff_of_true res.defaultRequest_le_defaultLimit trivial
    | some limit => exact Iff.rfl
  | some request =>
    cases hl : s.limited res with
    | none => exact Iff.rfl
    | some limit => exact iff_of_true (hordered res request hr limit hl) trivial

/-- Where all that is given is a quantity, and in order where it is given on both sides, the resources are written with
these amounts; and a written request is within its limit unless one of the two was given alone and is at odds with
the default. -/
theorem requests_within_limits_iff (c : Container) {s : ServerSpec} (hvalid : s.QuantitiesValid)
    (hordered : s.Ordered) : ∃ written, c.withResources s.resources = .ok { c with resources := some written } ∧
      ∀ res, written.requested res = some ((s.requested res).getD res.defaultRequest) ∧
        written.limited res = some ((s.limited res).getD res.defaultLimit) ∧
        (written.Within res ↔ res.Fits (s.requested res) (s.limited res)) := by
  refine ⟨s.written, ?_, fun res => ⟨ServerSpec.written_requested hvalid res, ServerSpec.written_limited hvalid res,
    written_within_iff hvalid hordered res⟩⟩
  rw [Container.withResources, ServerSpec.resolve_eq_written hvalid]
  rfl

def tightMemory : ServerSpec where
  resources := some {
    requests := some { cpu := some " 250m " }
    limits := some { cpu := some "2.5e-1", memory := some "64Mi" } }

theorem requests_within_limits_iff_sample : ∃ written,
    ({} : Container).withResources tightMemory.resources = .ok { ({} : Container) with resources := some written } ∧
      written.Within .cpu ∧ ¬ written.Within .memory := by
  obtain ⟨written, hwritten, h⟩ := requests_within_limits_iff {} (s := tightMemory) (by decide)
    fun res => by cases res <;> decide +kernel
  exact ⟨written, hwritten, (h .cpu).2.2.mpr (by decide +kernel), mt (h .memory).2.2.mp (by decide +kernel)⟩

def coreRequested : ServerSpec where
  resources := some { requests := some { cpu := some "1" } }

/-- The core is more than the half of one that the limit defaults to. -/
theorem given_request_exceeds_default_limit :
    ¬ ∀ (c : Container) (s : ServerSpec), s.QuantitiesValid → s.Ordered →
      ∃ written, c.withResources s.resources = .ok { c with resources := some written } ∧
        ∀ res, written.Within res := by
  intro h
  have hvalid : coreRequested.QuantitiesValid := by decide
  have hordered : coreRequested.Ordered := fun res _ _ _ hl => by cases res <;> cases hl
  obtain ⟨written, hwritten, hwithin⟩ := h {} coreRequested hvalid hordered
  rw [Container.withResources, ServerSpec.resolve_eq_written hvalid] at hwritten
  cases hwritten
  exact absurd ((written_within_iff hvalid hordered .cpu).mp (hwithin .cpu)) (by decide +kernel)

end ServerOperator
