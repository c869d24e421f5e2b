import ServerOperator.Proofs.References
import ServerOperator.Proofs.Wiring

/-!
# Filling in

Filling in gives a value to every setting that is open and to no other, and a spec is complete when it has nothing left
to fill in. One run completes a spec, so it reports a change exactly if it makes one, and the next run makes none.
-/

namespace ServerOperator

open Text (isBlank)

/-! ## One setting -/

namespace Setting

section
variable {α : Type} (Counts : α → Prop)

def IsSet (setting : Option α) : Prop := ∃ v, setting = some v ∧ Counts v

structure FilledWith (default : α) (before after : Option α) : Prop where
  kept : IsSet Counts before → after = before
  filled : ¬ IsSet Counts before → after = some default

end

section
variable {α : Type} {Counts : α → Prop} {default : α}

theorem FilledWith.isSet {before after : Option α} (h : FilledWith Counts default before after) (hd : Counts default) :
    IsSet Counts after := by
  by_cases hb : IsSet Counts before
  · rw [h.kept hb]
    exact hb
  · exact ⟨default, h.filled hb, hd⟩

theorem FilledWith.of_cases {fill : Option α → Option α} (kept : ∀ v, Counts v → fill (some v) = some v)
    (void : ∀ v, ¬ Counts v → fill (some v) = some default) (absent : fill none = some default) (before : Option α) :
    FilledWith Counts default before (fill before) := by
  constructor
  · rintro ⟨v, rfl, hv⟩
    exact kept v hv
  · intro h
    cases before with
    | none => exact absent
    | some v => exact void v fun hv => h ⟨v, rfl, hv⟩

end

theorem filled_count (d : Int32) (n : Option Int32) : FilledWith (fun _ => True) d n (some (n.getD d)) := by
  revert n
  apply FilledWith.of_cases
  · intro v _
    rfl
  · intro v hv
    exact absurd trivial hv
  · rfl

theorem filled_port (d : Int32) (n : Option Int32) : FilledWith (· ≠ 0) d n (ServerSpec.fillPort d n).1 := by
  revert n
  apply FilledWith.of_cases
  · intro v hv
    simp [ServerSpec.fillPort, hv]
  · intro v hv
    simp [ServerSpec.fillPort, not_not.mp hv]
  · rfl

theorem filled_text (d : String) (t : Option String) :
    FilledWith (isBlank · = false) d t (ServerSpec.fillText d t).1 := by
  revert t
  apply FilledWith.of_cases
  · intro v hv
    simp [ServerSpec.fillText, hv]
  · intro v hv
    simp [ServerSpec.fillText, Bool.of_not_eq_false hv]
  · rfl

theorem given?_eq_none_iff {t : Option String} : Text.given? t = none ↔ ¬ IsSet (isBlank · = false) t := by
  rw [Text.given?_eq_none_iff]
  constructor
  · rintro h ⟨v, rfl, hv⟩
    rw [h v rfl] at hv
    cases hv
  · intro h v hv
    exact Bool.of_not_eq_false fun hb => h ⟨v, hv, hb⟩

end Setting

/-! ## A spec -/

namespace ServerSpec

open Setting (IsSet FilledWith)

structure Defaulted (name : String) (s t : ServerSpec) : Prop where
  replicas : FilledWith (fun _ => True) 1 s.replicas t.replicas
  port : FilledWith (· ≠ 0) 8088 s.port t.port
  servicePort : FilledWith (· ≠ 0) 80 s.servicePort t.servicePort
  ingressClass : FilledWith (isBlank · = false) "traefik" s.ingressClass t.ingressClass
  ingressPath : name ≠ "" → FilledWith (isBlank · = false) ("/" ++ name ++ "/mcp") s.ingressPath t.ingressPath
  ingressPath_nameless : name = "" → t.ingressPath = s.ingressPath
  imageTag : ¬ Image.Tagged s.image.toList → FilledWith (isBlank · = false) "latest" s.imageTag t.imageTag
  imageTag_tagged : Image.Tagged s.image.toList → t.imageTag = s.imageTag
  /-- With the settings of before put back, the spec is as it was. -/
  rest : { t with
    replicas := s.replicas, port := s.port, servicePort := s.servicePort, imageTag := s.imageTag,
    ingressPath := s.ingressPath, ingressClass := s.ingressClass } = s

structure Complete (name : String) (t : ServerSpec) : Prop where
  replicas : IsSet (fun _ => True) t.replicas
  port : IsSet (· ≠ 0) t.port
  servicePort : IsSet (· ≠ 0) t.servicePort
  ingressClass : IsSet (isBlank · = false) t.ingressClass
  ingressPath : name ≠ "" → IsSet (isBlank · = false) t.ingressPath
  imageTag : ¬ Image.Tagged t.image.toList → IsSet (isBlank · = false) t.imageTag

section
variable {name : String} {s t : ServerSpec}

theorem Defaulted.image (h : s.Defaulted name t) : t.image = s.image := by
  have := congrArg ServerSpec.image h.rest
  exact this

theorem Defaulted.complete (h : s.Defaulted name t) : t.Complete name where
  replicas := h.replicas.isSet trivial
  port := h.port.isSet (by decide)
  servicePort := h.servicePort.isSet (by decide)
  ingressClass := h.ingressClass.isSet (by decide)
  ingressPath hname := (h.ingressPath hname).isSet (isBlank_ingressPath name)
  imageTag htag := by
    rw [h.image] at htag
    exact (h.imageTag htag).isSet (by decide)

end

theorem defaulted_fillDefaults (name : String) (s : ServerSpec) : s.Defaulted name (s.fillDefaults name).1 := by
  rw [fillDefaults_fst]
  constructor
  case replicas => exact Setting.filled_count Default.replicas s.replicas
  case port => exact Setting.filled_port Default.port s.port
  case servicePort => exact Setting.filled_port Default.servicePort s.servicePort
  case ingressClass => exact Setting.filled_text Default.ingressClass s.ingressClass
  case ingressPath =>
    intro hname
    simp only [hname, if_false]
    exact Setting.filled_text (Default.ingressPath name) s.ingressPath
  case ingressPath_nameless =>
    intro hname
    simp only [hname, if_true]
  case imageTag =>
    intro htag
    rw [← Image.hasTag_iff] at htag
    simp only [htag]
    exact Setting.filled_text Default.imageTag s.imageTag
  case imageTag_tagged =>
    intro htag
    rw [← Image.hasTag_iff] at htag
    simp only [htag, if_true]
  case rest => rfl

theorem fillText_unfilled_iff {d : String} {t : Option String} :
    (fillText d t).2 = false ↔ IsSet (isBlank · = false) t := by
  cases t with
  | none => simp [fillText, IsSet]
  | some t => by_cases h : isBlank t <;> simp [fillText, IsSet, h]

theorem unfilled_iff_complete {name : String} {s : ServerSpec} :
    (s.fillDefaults name).2 = false ↔ s.Complete name := by
  have himageTag : (if Image.hasTag s.image then false else (fillText Default.imageTag s.imageTag).2) = false ↔
      (¬ Image.Tagged s.image.toList → IsSet (isBlank · = false) s.imageTag) := by
    rw [← Image.hasTag_iff, ← fillText_unfilled_iff (d := Default.imageTag)]
    cases Image.hasTag s.image <;> simp
  have hingressPath :
      (if name = "" then false else (fillText (Default.ingressPath name) s.ingressPath).2) = false ↔
      (name ≠ "" → IsSet (isBlank · = false) s.ingressPath) := by
    rw [← fillText_unfilled_iff (d := Default.ingressPath name)]
    by_cases hname : name = "" <;> simp [hname]
  have hreplicas : s.replicas.isNone = false ↔ IsSet (fun _ => True) s.replicas := by
    cases s.replicas <;> simp [IsSet]
  rw [fillDefaults_snd]
  simp only [Bool.or_eq_false_iff, hreplicas, fillPort_unfilled_iff, himageTag, hingressPath, fillText_unfilled_iff]
  constructor
  · rintro ⟨⟨⟨⟨⟨hr, hp⟩, hs⟩, ht⟩, hi⟩, hc⟩
    exact ⟨hr, hp, hs, hc, hi, ht⟩
  · rintro ⟨hr, hp, hs, hc, hi, ht⟩
    exact ⟨⟨⟨⟨⟨hr, hp⟩, hs⟩, ht⟩, hi⟩, hc⟩

/-- A complete spec is one that filling in leaves as it is. -/
theorem complete_iff_unchanged {name : String} {s : ServerSpec} : s.Complete name ↔ (s.fillDefaults name).1 = s := by
  constructor
  · intro h
    exact fillDefaults_of_unfilled (unfilled_iff_complete.mpr h)
  · intro h
    have := (defaulted_fillDefaults name s).complete
    rw [h] at this
    exact this

end ServerSpec

/-- A run of filling in reports a change exactly if it made one. It fills in what is open and nothing else, so that a
second run finds the spec complete, and a server that is valid stays so. -/
theorem defaults_fill_open_settings_once (name : String) (s : ServerSpec) :
    ((s.fillDefaults name).2 = true ↔ (s.fillDefaults name).1 ≠ s) ∧
      (s.fillDefaults name).1.fillDefaults name = ((s.fillDefaults name).1, false) ∧
      s.Defaulted name (s.fillDefaults name).1 ∧ (s.fillDefaults name).1.Complete name ∧
      ∀ srv : Server, srv.validate = .ok () → srv.fillDefaults.1.validate = .ok () := by
  have hdefaulted := ServerSpec.defaulted_fillDefaults name s
  refine ⟨?_, ?_, hdefaulted, hdefaulted.complete, fun srv => Server.validate_fillDefaults⟩
  · rw [ne_eq, ← ServerSpec.complete_iff_unchanged, ← ServerSpec.unfilled_iff_complete, Bool.not_eq_false]
  · apply Prod.ext
    · exact ServerSpec.complete_iff_unchanged.mp hdefaulted.complete
    · exact ServerSpec.unfilled_iff_complete.mpr hdefaulted.complete

def halfOpen : Server where
  metadata := { name := some "search" }
  spec := { image := "reg:1/a/b:2", replicas := some 0, port := some 0, ingressPath := some " ", imageTag := some "" }

theorem defaults_fill_open_settings_once_sample : halfOpen.validate = .ok () ∧
    halfOpen.fillDefaults.1.validate = .ok () ∧ halfOpen.fillDefaults.1.spec = { halfOpen.spec with
      port := some 8088, servicePort := some 80, ingressPath := some "/search/mcp", ingressClass := some "traefik" } := by
  have hvalid : halfOpen.validate = .ok () := by decide
  obtain ⟨-, -, -, -, hkeeps⟩ := defaults_fill_open_settings_once "search" halfOpen.spec
  refine ⟨hvalid, hkeeps halfOpen hvalid, ?_⟩
  decide

end ServerOperator
