import ServerOperator.Proofs.Rewriting

/-!
# Round trips

The spec and the status of a server and their parts are read back from what is written for them. What was read in
another form is written in one that shows the same fields, so that a server that is read and put back is the same
server to all who read it.
-/

namespace ServerOperator

open Json

/-! ## The fields of the records -/

def EnvVar.fields : List Field := [
  { name := "name", rule := .required },
  { name := "value", rule := .defaulted (.string "") }]

def ResourceList.fields : List Field := [
  { name := "cpu", rule := .optional },
  { name := "memory", rule := .optional }]

def ResourceRequirements.fields : List Field := [
  { name := "requests", rule := .optional, rewriting := Record ResourceList.fields },
  { name := "limits", rule := .optional, rewriting := Record ResourceList.fields }]

def ServerSpec.fields : List Field := [
  { name := "image", rule := .defaulted (.string "") },
  { name := "imageTag", rule := .optional },
  { name := "registryOverride", rule := .optional },
  { name := "replicas", rule := .optional },
  { name := "port", rule := .optional },
  { name := "servicePort", rule := .optional },
  { name := "ingressHost", rule := .optional },
  { name := "ingressPath", rule := .optional },
  { name := "ingressClass", rule := .optional },
  { name := "ingressAnnotations", rule := .unlessEmpty, rewriting := SameEntries },
  { name := "envVars", rule := .unlessEmpty, rewriting := ListOf (Record EnvVar.fields) },
  { name := "imagePullSecrets", rule := .unlessEmpty, rewriting := ListOf Eq },
  { name := "resources", rule := .optional, rewriting := Record ResourceRequirements.fields }]

/-- A phase may be given as an object with nothing under its name. -/
def Phase.Spelled : Rewriting := fun v w =>
  ∃ name, w = .string name ∧ (v = .string name ∨ v = .object [(name, .null)])

def ServerStatus.fields : List Field := [
  { name := "phase", rule := .nullable, rewriting := Phase.Spelled },
  { name := "message", rule := .nullable },
  { name := "deploymentReady", rule := .defaulted (.bool false) },
  { name := "serviceReady", rule := .defaulted (.bool false) },
  { name := "ingressReady", rule := .defaulted (.bool false) },
  { name := "observedGeneration", rule := .nullable }]

/-! ## Records that were read -/

theorem EnvVar.rewritten : Rewritten ofJson? toJson (Record fields) := by
  intro v e h
  obtain ⟨o, hrecord, h⟩ := Except.bind_eq_ok h
  obtain ⟨name, hname, h⟩ := Except.bind_eq_ok h
  obtain ⟨value, hvalue, h⟩ := Except.bind_eq_ok h
  obtain ⟨name', hpresent, h⟩ := Except.bind_eq_ok h
  cases h
  refine .of_fields (by decide) hrecord (.refl _) fun hone => ?_
  simp only [fields, List.forall_mem_cons]
  refine ⟨?_, ?_, List.forall_mem_nil _⟩
  · exact rewrites_required rewritten_asText (hone _ (by decide)) hname hpresent (by simp)
  · exact rewrites_defaulted rewritten_asText (hone _ (by decide)) hvalue (by simp)

theorem ResourceList.rewritten : Rewritten ofJson? toJson (Record fields) := by
  intro v r h
  obtain ⟨o, hrecord, h⟩ := Except.bind_eq_ok h
  obtain ⟨cpu, hcpu, h⟩ := Except.bind_eq_ok h
  obtain ⟨memory, hmemory, h⟩ := Except.bind_eq_ok h
  cases h
  refine .of_fields (by decide) hrecord ?_ fun hone => ?_
  · rw [← List.append_nil (member "memory" _ _)]
    refine names_member _ _ _ (names_member _ _ _ ?_)
    exact .refl []
  simp only [fields, List.forall_mem_cons]
  refine ⟨?_, ?_, List.forall_mem_nil _⟩
  · exact rewrites_optional rewritten_asText (hone _ (by decide)) hcpu (by simp)
  · exact rewrites_optional rewritten_asText (hone _ (by decide)) hmemory (by simp)

theorem ResourceRequirements.rewritten : Rewritten ofJson? toJson (Record fields) := by
  intro v r h
  obtain ⟨o, hrecord, h⟩ := Except.bind_eq_ok h
  obtain ⟨limits, hlimits, h⟩ := Except.bind_eq_ok h
  obtain ⟨requests, hrequests, h⟩ := Except.bind_eq_ok h
  cases h
  refine .of_fields (by decide) hrecord ?_ fun hone => ?_
  · rw [← List.append_nil (member "limits" _ _)]
    refine names_member _ _ _ (names_member _ _ _ ?_)
    exact .refl []
  simp only [fields, List.forall_mem_cons]
  refine ⟨?_, ?_, List.forall_mem_nil _⟩
  · exact rewrites_optional ResourceList.rewritten (hone _ (by decide)) hrequests (by simp)
  · exact rewrites_optional ResourceList.rewritten (hone _ (by decide)) hlimits (by simp)

theorem ServerSpec.names_toJson (s : ServerSpec) :
    ∃ o : Fields, s.toJson = .object o ∧ (o.map (·.1)).Sublist fieldNames := by
  rw [ServerSpec.toJson, ← List.append_nil (member "resources" _ _)]
  simp only [List.append_assoc]
  refine ⟨_, rfl, .cons_cons _ ?_⟩
  refine names_member _ _ _ (names_member _ _ _ ?_)
  refine names_member _ _ _ (names_member _ _ _ (names_member _ _ _ ?_))
  refine names_member _ _ _ (names_member _ _ _ (names_member _ _ _ ?_))
  refine names_memberUnlessEmpty _ _ _ (names_memberUnlessEmpty _ _ _ (names_memberUnlessEmpty _ _ _ ?_))
  refine names_member _ _ _ ?_
  exact .refl []

theorem ServerSpec.rewritten : Rewritten ofJson? toJson (Record fields) := by
  intro v s h
  obtain ⟨o, hrecord, h⟩ := Except.bind_eq_ok h
  obtain ⟨envVars, henvVars, h⟩ := Except.bind_eq_ok h
  obtain ⟨image, himage, h⟩ := Except.bind_eq_ok h
  obtain ⟨imagePullSecrets, himagePullSecrets, h⟩ := Except.bind_eq_ok h
  obtain ⟨imageTag, himageTag, h⟩ := Except.bind_eq_ok h
  obtain ⟨ingressAnnotations, hingressAnnotations, h⟩ := Except.bind_eq_ok h
  obtain ⟨ingressClass, hingressClass, h⟩ := Except.bind_eq_ok h
  obtain ⟨ingressHost, hingressHost, h⟩ := Except.bind_eq_ok h
  obtain ⟨ingressPath, hingressPath, h⟩ := Except.bind_eq_ok h
  obtain ⟨port, hport, h⟩ := Except.bind_eq_ok h
  obtain ⟨registryOverride, hregistryOverride, h⟩ := Except.bind_eq_ok h
  obtain ⟨replicas, hreplicas, h⟩ := Except.bind_eq_ok h
  obtain ⟨resources, hresources, h⟩ := Except.bind_eq_ok h
  obtain ⟨servicePort, hservicePort, h⟩ := Except.bind_eq_ok h
  cases h
  refine .of_fields (by decide) hrecord ?_ fun hone => ?_
  · obtain ⟨o', ho', hsub⟩ := ServerSpec.names_toJson _
    cases ho'
    exact hsub
  simp only [fields, List.forall_mem_cons]
  refine ⟨?_, ?_, ?_, ?_, ?_, ?_, ?_, ?_, ?_, ?_, ?_, ?_, ?_, List.forall_mem_nil _⟩
  · exact rewrites_defaulted rewritten_asText (hone _ (by decide)) himage (by simp)
  · exact rewrites_optional rewritten_asText (hone _ (by decide)) himageTag (by simp)
  · exact rewrites_optional rewritten_asText (hone _ (by decide)) hregistryOverride (by simp)
  · exact rewrites_optional rewritten_asInt32 (hone _ (by decide)) hreplicas (by simp)
  · exact rewrites_optional rewritten_asInt32 (hone _ (by decide)) hport (by simp)
  · exact rewrites_optional rewritten_asInt32 (hone _ (by decide)) hservicePort (by simp)
  · exact rewrites_optional rewritten_asText (hone _ (by decide)) hingressHost (by simp)
  · exact rewrites_optional rewritten_asText (hone _ (by decide)) hingressPath (by simp)
  · exact rewrites_optional rewritten_asText (hone _ (by decide)) hingressClass (by simp)
  · exact rewrites_unlessEmpty rewritten_asMap (hone _ (by decide)) (fun _ _ => counts_asMap) rfl hingressAnnotations
      (by simp)
  · exact rewrites_unlessEmpty (rewritten_asList EnvVar.rewritten) (hone _ (by decide)) (fun _ _ => counts_asList) rfl
      henvVars (by simp)
  · exact rewrites_unlessEmpty (rewritten_asList rewritten_asText) (hone _ (by decide)) (fun _ _ => counts_asList) rfl
      himagePullSecrets (by simp)
  · exact rewrites_optional ResourceRequirements.rewritten (hone _ (by decide)) hresources (by simp)

theorem Phase.rewritten : Rewritten ofJson? toJson Spelled := by
  intro v p h
  have hname {s : String} (h : named s = .ok p) : p.name = s := by
    unfold named at h
    split at h
    · next p' hp =>
      cases h
      have hbeq := List.find?_some (show Phase.all.find? (·.name == s) = some p from hp)
      exact eq_of_beq hbeq
    · cases h
  unfold ofJson? at h
  split at h
  · next s => exact ⟨s, congrArg Json.string (hname h), .inl rfl⟩
  · next s => exact ⟨s, congrArg Json.string (hname h), .inr rfl⟩
  · cases h

theorem ServerStatus.rewritten : Rewritten ofJson? toJson (Record fields) := by
  intro v s h
  obtain ⟨o, hrecord, h⟩ := Except.bind_eq_ok h
  obtain ⟨deploymentReady, hdeploymentReady, h⟩ := Except.bind_eq_ok h
  obtain ⟨ingressReady, hingressReady, h⟩ := Except.bind_eq_ok h
  obtain ⟨message, hmessage, h⟩ := Except.bind_eq_ok h
  obtain ⟨observedGeneration, hobservedGeneration, h⟩ := Except.bind_eq_ok h
  obtain ⟨phase, hphase, h⟩ := Except.bind_eq_ok h
  obtain ⟨serviceReady, hserviceReady, h⟩ := Except.bind_eq_ok h
  cases h
  refine .of_fields (by decide) hrecord (.refl _) fun hone => ?_
  simp only [fields, List.forall_mem_cons]
  refine ⟨?_, ?_, ?_, ?_, ?_, ?_, List.forall_mem_nil _⟩
  · exact rewrites_nullable Phase.rewritten (hone _ (by decide)) hphase (by simp)
  · exact rewrites_nullable rewritten_asText (hone _ (by decide)) hmessage (by simp)
  · exact rewrites_defaulted rewritten_asBool (hone _ (by decide)) hdeploymentReady (by simp)
  · exact rewrites_defaulted rewritten_asBool (hone _ (by decide)) hserviceReady (by simp)
  · exact rewrites_defaulted rewritten_asBool (hone _ (by decide)) hingressReady (by simp)
  · exact rewrites_nullable rewritten_asInt64 (hone _ (by decide)) hobservedGeneration (by simp)

/-! ## Records in other forms -/

theorem EnvVar.alike {o o' : Fields} (h : AlikeIn fields o o') : ofJson? (.object o) = ofJson? (.object o') := by
  refine h.read_eq (fun v => rfl) ?_
  simp only [AlikeIn, fields, List.forall_mem_cons] at h
  obtain ⟨name, value, _⟩ := h
  rw [name.member? trivial, value.defaulted trivial]

theorem ResourceList.alike {o o' : Fields} (h : AlikeIn fields o o') :
    ofJson? (.object o) = ofJson? (.object o') := by
  refine h.read_eq (fun v => rfl) ?_
  simp only [AlikeIn, fields, List.forall_mem_cons] at h
  obtain ⟨cpu, memory, _⟩ := h
  rw [cpu.optional, memory.optional]

theorem ResourceRequirements.alike {o o' : Fields} (h : AlikeIn fields o o') :
    ofJson? (.object o) = ofJson? (.object o') := by
  refine h.read_eq (fun v => rfl) ?_
  simp only [AlikeIn, fields, List.forall_mem_cons] at h
  obtain ⟨requests, limits, _⟩ := h
  rw [requests.optional, limits.optional]

theorem ServerSpec.alike {o o' : Fields} (h : AlikeIn fields o o') :
    ofJson? (.object o) = ofJson? (.object o') := by
  refine h.read_eq (fun v => rfl) ?_
  simp only [AlikeIn, fields, List.forall_mem_cons] at h
  obtain ⟨image, imageTag, registryOverride, replicas, port, servicePort, ingressHost, ingressPath, ingressClass,
    ingressAnnotations, envVars, imagePullSecrets, resources, _⟩ := h
  -- A list or a map is not left open by `null`, which is a mismatch there.
  have hempty : Rule.unlessEmpty.Counts .null := ⟨nofun, nofun⟩
  rw [image.defaulted trivial, imageTag.optional, registryOverride.optional, replicas.optional, port.optional,
    servicePort.optional, ingressHost.optional, ingressPath.optional, ingressClass.optional,
    ingressAnnotations.defaulted hempty, envVars.defaulted hempty, imagePullSecrets.defaulted hempty,
    resources.optional]

theorem ServerStatus.alike {o o' : Fields} (h : AlikeIn fields o o') :
    ofJson? (.object o) = ofJson? (.object o') := by
  refine h.read_eq (fun v => rfl) ?_
  simp only [AlikeIn, fields, List.forall_mem_cons] at h
  obtain ⟨phase, message, deploymentReady, serviceReady, ingressReady, observedGeneration, _⟩ := h
  rw [phase.optional, message.optional, deploymentReady.defaulted trivial, serviceReady.defaulted trivial,
    ingressReady.defaulted trivial, observedGeneration.optional]

/-! ## Round trips -/

/-- The records that are read are those that are written, given in any form. -/
structure RoundTrips {α : Type} (fields : List Field) (read : Json → Except Mismatch α) (write : α → Json) : Prop where
  undoes : Undoes read write
  /-- What is written for a value that was read shows its fields, and is read and written as it is. -/
  canonical : ∀ v a, read v = .ok a →
    Record fields v (write a) ∧ read (write a) = .ok a ∧ Record fields (write a) (write a)
  alike : ∀ o o', AlikeIn fields o o' → read (.object o) = read (.object o')
  positional : ∀ items : List Json, items.length ≤ fields.length →
    read (.array items) = read (.object ((fields.map (·.name)).zip items))

theorem RoundTrips.of_rewritten {α : Type} {fields : List Field} {read : Json → Except Mismatch α} {write : α → Json}
    {k : Fields → Except Mismatch α} (hread : ∀ v, read v = asRecord (fields.map (·.name)) v >>= k)
    (hnames : (fields.map (·.name)).Nodup) (hundoes : Undoes read write)
    (hrewritten : Rewritten read write (Record fields))
    (halike : ∀ o o', AlikeIn fields o o' → read (.object o) = read (.object o')) : RoundTrips fields read write where
  undoes := hundoes
  canonical v a h := ⟨hrewritten v a h, hundoes a, hrewritten _ a (hundoes a)⟩
  alike := halike
  positional items h := by
    rw [hread, hread, asRecord_array hnames (by rwa [List.length_map])]

theorem replaced_server {v : Json} {s : Server} (h : Server.ofJson? v = .ok s) (key : Key) :
    ∃ o o' : Fields, v = .object o ∧ (Call.replace .server key s).body? = some (.object o') ∧
      Server.ofJson? (.object o') = .ok s ∧
      Rule.required.Rewrites (Record ServerSpec.fields) (o.find? "spec") (o'.find? "spec") ∧
      Rule.optional.Rewrites (Record ServerStatus.fields) (o.find? "status") (o'.find? "status") := by
  obtain ⟨o, rfl, hdistinct, _, hspec, hstatus⟩ := Server.ofJson?_ok_iff.mp h
  have hone := Fields.distinct_ok_iff.mp hdistinct
  refine ⟨o, _, rfl, rfl, Server.undoes s, ?_, ?_⟩
  · exact rewrites_required ServerSpec.rewritten (hone _ (by decide)) hspec rfl (by simp)
  · exact rewrites_optional ServerStatus.rewritten (hone _ (by decide)) hstatus (by simp)

theorem wire_format_round_trips :
    RoundTrips ServerSpec.fields ServerSpec.ofJson? ServerSpec.toJson ∧
    RoundTrips ServerStatus.fields ServerStatus.ofJson? ServerStatus.toJson ∧
    RoundTrips EnvVar.fields EnvVar.ofJson? EnvVar.toJson ∧
    RoundTrips ResourceList.fields ResourceList.ofJson? ResourceList.toJson ∧
    RoundTrips ResourceRequirements.fields ResourceRequirements.ofJson? ResourceRequirements.toJson ∧
    ∀ v s key, Server.ofJson? v = .ok s → ∃ o o' : Fields,
      v = .object o ∧ (Call.replace .server key s).body? = some (.object o') ∧ Server.ofJson? (.object o') = .ok s ∧
      Rule.required.Rewrites (Record ServerSpec.fields) (o.find? "spec") (o'.find? "spec") ∧
      Rule.optional.Rewrites (Record ServerStatus.fields) (o.find? "status") (o'.find? "status") := by
  refine ⟨?_, ?_, ?_, ?_, ?_, fun v s key h => replaced_server h key⟩
  · exact .of_rewritten (fun v => rfl) (by decide) ServerSpec.undoes ServerSpec.rewritten fun _ _ => ServerSpec.alike
  · exact .of_rewritten (fun v => rfl) (by decide) ServerStatus.undoes ServerStatus.rewritten fun _ _ =>
      ServerStatus.alike
  · exact .of_rewritten (fun v => rfl) (by decide) EnvVar.undoes EnvVar.rewritten fun _ _ => EnvVar.alike
  · exact .of_rewritten (fun v => rfl) (by decide) ResourceList.undoes ResourceList.rewritten fun _ _ =>
      ResourceList.alike
  · exact .of_rewritten (fun v => rfl) (by decide) ResourceRequirements.undoes ResourceRequirements.rewritten
      fun _ _ => ResourceRequirements.alike

def Server.spelled : Json := .object [
  ("status", .array [.object [("Ready", .null)]]),
  ("spec", .object [
    ("team", .string "ours"),
    ("port", .null),
    ("envVars", .array [.array [.string "LEVEL"]]),
    ("image", .string "nginx")]),
  ("metadata", .object [])]

def Server.meant : Server :=
  { spec := { image := "nginx", envVars := [{ name := "LEVEL" }] }, status := some { phase := some .ready } }

theorem wire_format_round_trips_sample :
    Server.ofJson? Server.spelled = .ok Server.meant ∧ ∃ o o' : Fields, Server.spelled = .object o ∧
      (Call.replace .server { space := "default", name := "demo" } Server.meant).body? = some (.object o') ∧
      Server.ofJson? (.object o') = .ok Server.meant ∧
      Rule.required.Rewrites (Record ServerSpec.fields) (o.find? "spec") (o'.find? "spec") ∧
      Rule.optional.Rewrites (Record ServerStatus.fields) (o.find? "status") (o'.find? "status") :=
  have hread : Server.ofJson? Server.spelled = .ok Server.meant := rfl
  ⟨hread, wire_format_round_trips.2.2.2.2.2 _ _ _ hread⟩

end ServerOperator
