import ServerOperator.Api.Listing
import ServerOperator.Json.Pointer
import ServerOperator.Proofs.Validity
import ServerOperator.Server.Definition

/-!
# One wire format

The definition of the resource and the readers and writers of servers tell the same story. What the operator writes
passes the schema: a record is written member by member in the order in which its schema names them. What passes
the schema can be read, as long as whole numbers are written as integers.
-/

namespace ServerOperator

open Json Schema

/-! ## What is written passes -/

inductive Shown : List (String × Schema) → Fields → Prop
  | nil : Shown [] []
  | skip {f : String × Schema} {fields : List (String × Schema)} {o : Fields} (h : Shown fields o) :
    Shown (f :: fields) o
  | keep {name : String} {s : Schema} {fields : List (String × Schema)} {o : Fields} {v : Json}
    (hv : admits s.toJson v = true) (h : Shown fields o) : Shown ((name, s) :: fields) ((name, v) :: o)

namespace Shown

variable {fields : List (String × Schema)} {o : Fields} {name : String} {s : Schema}

theorem names (h : Shown fields o) : (o.map (·.1)).Sublist (fields.map (·.1)) := by
  induction h with
  | nil => exact .slnil
  | skip _ ih => exact ih.cons _
  | keep _ _ ih => exact ih.cons_cons _

theorem admitted (h : Shown fields o) (hnames : (fields.map (·.1)).Nodup) :
    ∀ f ∈ fields, ∀ x ∈ o.values f.1, admits f.2.toJson x = true := by
  induction h with
  | nil => exact List.forall_mem_nil _
  | skip h ih =>
    obtain ⟨hname, hnames⟩ := List.nodup_cons.mp hnames
    refine List.forall_mem_cons.mpr ⟨fun x hx => ?_, ih hnames⟩
    rw [Fields.values_eq_nil fun hmem => hname (h.names.subset hmem)] at hx
    cases hx
  | @keep name s fields o v hv h ih =>
    obtain ⟨hname, hnames⟩ := List.nodup_cons.mp hnames
    refine List.forall_mem_cons.mpr ⟨fun x hx => ?_, fun f hf x hx => ?_⟩
    · rw [Fields.values_cons, if_pos rfl, Fields.values_eq_nil fun hmem => hname (h.names.subset hmem)] at hx
      rwa [List.mem_singleton.mp hx]
    · have hne : name ≠ f.1 := fun e => hname (List.mem_map.mpr ⟨f, hf, e.symm⟩)
      rw [Fields.values_cons, if_neg hne] at hx
      exact ih hnames f hf x hx

theorem member {α : Type} {write : α → Json} (a : Option α) (hwrite : ∀ a, admits s.toJson (write a) = true)
    (h : Shown fields o) : Shown ((name, s) :: fields) (member name write a ++ o) := by
  cases a with
  | none => exact .skip h
  | some a => exact .keep (hwrite a) h

theorem memberUnlessEmpty {isEmpty : Bool} {v : Json} (hv : admits s.toJson v = true) (h : Shown fields o) :
    Shown ((name, s) :: fields) (ServerSpec.memberUnlessEmpty name isEmpty v ++ o) := by
  cases isEmpty with
  | true => exact .skip h
  | false => exact .keep hv h

/-- An object that shows the fields of a record passes its schema, if it has what is required. -/
theorem admits_record {n : Notes} {required : List String} (h : Shown fields o) (hnames : (fields.map (·.1)).Nodup)
    (hrequired : ∀ name ∈ required, o.values name ≠ []) : admits (record n fields required).toJson (.object o) = true :=
  (Schema.admits_record hnames).mpr (.inl ⟨o, rfl, hnames.sublist h.names, h.admitted hnames, hrequired⟩)

end Shown

section
variable {n : Notes}

theorem admits_string (s : String) : admits (text n).toJson (.string s) = true := admits_text.mpr (.inl ⟨s, rfl⟩)

theorem admits_bool (b : Bool) : admits (flag n).toJson (.bool b) = true := admits_flag.mpr (.inl ⟨b, rfl⟩)

theorem admits_ofInt32 (i : Int32) : admits (int32 n).toJson (ofInt32 i) = true :=
  admits_int32.mpr (.inl ⟨i.toInt, rfl, i.minValue_le_toInt, i.toInt_le⟩)

theorem admits_ofInt64 (i : Int64) : admits (int64 n).toJson (ofInt64 i) = true :=
  admits_int64.mpr (.inl ⟨i.toInt, rfl, i.minValue_le_toInt, i.toInt_le⟩)

theorem admits_ofList {α : Type} {items : Schema} {write : α → Json}
    (hwrite : ∀ a, admits items.toJson (write a) = true) (l : List α) :
    admits (list n items).toJson (ofList write l) = true := by
  refine admits_list.mpr (.inl ⟨_, rfl, ?_⟩)
  exact List.forall_mem_map.mpr fun a _ => hwrite a

theorem KeysIncrease.nodup {β : Type} {l : List (String × β)} (h : KeysIncrease l) : (l.map (·.1)).Nodup :=
  List.pairwise_map.mpr (h.imp fun {a b} hlt (he : a.1 = b.1) => String.lt_irrefl _ (he ▸ hlt))

theorem admits_ofMap {α : Type} {values : Schema} {write : α → Json}
    (hwrite : ∀ a, admits values.toJson (write a) = true) (m : SortedMap α) :
    admits (map n values).toJson (ofMap write m) = true := by
  refine admits_map.mpr (.inl ⟨_, rfl, ?_, ?_⟩)
  · rw [List.map_map]
    exact m.increasing.nodup
  · exact List.forall_mem_map.mpr fun e _ => hwrite e.2

end

theorem EnvVar.admitted (e : EnvVar) : admits schema.toJson e.toJson = true :=
  Shown.admits_record (.keep (admits_string _) (.keep (admits_string _) .nil)) (by decide) (by simp)

theorem ResourceList.admitted (r : ResourceList) : admits schema.toJson r.toJson = true := by
  rw [ResourceList.toJson, ← List.append_nil (member "memory" _ _)]
  exact Shown.admits_record (.member _ admits_string (.member _ admits_string .nil)) (by decide) (List.forall_mem_nil _)

theorem ResourceRequirements.admitted (r : ResourceRequirements) : admits schema.toJson r.toJson = true := by
  rw [ResourceRequirements.toJson, ← List.append_nil (member "limits" _ _)]
  refine Shown.admits_record ?_ (by decide) (List.forall_mem_nil _)
  exact .member _ ResourceList.admitted (.member _ ResourceList.admitted .nil)

theorem ServerSpec.admitted (s : ServerSpec) : admits schema.toJson s.toJson = true := by
  -- As a sum of members that ends in nothing, the object follows the schema field by field.
  rw [ServerSpec.toJson, ← List.append_nil (member "resources" _ _)]
  simp only [List.append_assoc]
  refine Shown.admits_record ?_ (by decide) (List.forall_mem_nil _)
  refine .keep (admits_string _) ?_
  refine .member _ admits_string (.member _ admits_string ?_)
  refine .member _ admits_ofInt32 (.member _ admits_ofInt32 (.member _ admits_ofInt32 ?_))
  refine .member _ admits_string (.member _ admits_string (.member _ admits_string ?_))
  refine .memberUnlessEmpty (admits_ofMap admits_string _) (.memberUnlessEmpty (admits_ofList EnvVar.admitted _) ?_)
  refine .memberUnlessEmpty (admits_ofList admits_string _) ?_
  exact .member _ ResourceRequirements.admitted .nil

theorem Phase.admitted (p : Option Phase) : admits schema.toJson (ofOption Phase.toJson p) = true := by
  refine admits_anyOf.mpr ?_
  cases p with
  | none => exact ⟨_, .tail _ (.head _), admits_onlyNull.mpr rfl⟩
  | some p => exact ⟨_, .head _, admits_choice.mpr ⟨p.name, List.mem_map_of_mem (by cases p <;> decide), rfl⟩⟩

theorem admits_ofOption {α : Type} {s : Schema} {write : α → Json} (hnull : admits s.toJson .null = true)
    (hwrite : ∀ a, admits s.toJson (write a) = true) (a : Option α) : admits s.toJson (ofOption write a) = true := by
  cases a with
  | none => exact hnull
  | some a => exact hwrite a

theorem ServerStatus.admitted (s : ServerStatus) : admits schema.toJson s.toJson = true := by
  refine Shown.admits_record ?_ (by decide) (List.forall_mem_nil _)
  refine .keep (Phase.admitted s.phase) (.keep (admits_ofOption (admits_text.mpr (.inr ⟨rfl, rfl⟩)) admits_string _) ?_)
  refine .keep (admits_bool _) (.keep (admits_bool _) (.keep (admits_bool _) ?_))
  exact .keep (admits_ofOption (admits_int64.mpr (.inr ⟨rfl, rfl⟩)) admits_ofInt64 _) .nil

/-- Version, kind and metadata are not named by the schema and pass as they are. -/
theorem Server.admitted (s : Server) : admits schema.toJson s.toJson = true := by
  rw [Server.toJson]
  generalize ho : tag.toFields ++ [("metadata", s.metadata.toJson), ("spec", s.spec.toJson)] ++
    member "status" ServerStatus.toJson s.status = o
  have hspec : o.values "spec" = [s.spec.toJson] := by simp [← ho]
  have hstatus : o.values "status" = (s.status.map ServerStatus.toJson).toList := by simp [← ho]
  have hnames : (o.map (·.1)).Nodup := by
    rw [← ho]
    cases s.status <;> simp [TypeTag.toFields, member]
  refine (Schema.admits_record (by decide)).mpr (.inl ⟨o, rfl, hnames, ?_, ?_⟩)
  · refine List.forall_mem_cons.mpr ⟨?_, List.forall_mem_singleton.mpr ?_⟩
    · rw [hspec]
      exact List.forall_mem_singleton.mpr s.spec.admitted
    · rw [hstatus]
      cases s.status with
      | none => exact List.forall_mem_nil _
      | some status => exact List.forall_mem_singleton.mpr status.admitted
  · rw [List.forall_mem_singleton, hspec]
    exact List.cons_ne_nil _ _

/-! ## Plain values -/

namespace Json

mutual

/-- All there is can be read, and no whole number is written with a fraction, an exponent or a signed zero. -/
def isPlain : Json → Bool
  | decimal d => d.whole?.isNone
  | unreadable => false
  | array items => arePlain items
  | object fields => membersPlain fields
  | _ => true

def arePlain : List Json → Bool
  | [] => true
  | v :: rest => v.isPlain && arePlain rest

def membersPlain : List (String × Json) → Bool
  | [] => true
  | (_, v) :: rest => v.isPlain && membersPlain rest

end

variable {v : Json} {l : List Json} {o : Fields}

theorem isPlain_array : (array l).isPlain = true ↔ ∀ v ∈ l, v.isPlain = true := by
  show arePlain l = true ↔ _
  induction l with
  | nil => simp [arePlain]
  | cons v l ih => simp [arePlain, ih]

theorem isPlain_object : (object o).isPlain = true ↔ ∀ m ∈ o, m.2.isPlain = true := by
  show membersPlain o = true ↔ _
  induction o with
  | nil => simp [membersPlain]
  | cons m o ih => rw [membersPlain, Bool.and_eq_true, ih, List.forall_mem_cons]

theorem isPlain_of_mem_values (h : (object o).isPlain = true) {key : String} (hv : v ∈ o.values key) :
    v.isPlain = true := by
  obtain ⟨m, hm, rfl⟩ := List.mem_map.mp hv
  exact isPlain_object.mp h m (List.mem_filter.mp hm).1

theorem eq_int_of_whole? (h : v.isPlain = true) {i : Int} (hi : v.whole? = some i) : v = .int i := by
  cases v with
  | int n => exact congrArg int (Option.some.inj hi)
  | decimal d =>
    have hd : d.whole? = none := Option.isNone_iff_eq_none.mp h
    cases hd.symm.trans hi
  | _ => cases hi

end Json

/-! ## What passes can be read -/

theorem exists_bind {ε α β : Type} {x : Except ε α} {f : α → Except ε β} (hx : ∃ a, x = .ok a)
    (hf : ∀ a, ∃ b, f a = .ok b) : ∃ b, x >>= f = .ok b := by
  obtain ⟨a, ha⟩ := hx
  exact Except.bind_ok_iff.mpr ⟨a, ha, hf a⟩

theorem exists_mapM {ε α β : Type} {f : α → Except ε β} {l : List α} (h : ∀ a ∈ l, ∃ b, f a = .ok b) :
    ∃ l', l.mapM f = .ok l' := by
  induction l with
  | nil => exact ⟨[], rfl⟩
  | cons a l ih =>
    obtain ⟨ha, hl⟩ := List.forall_mem_cons.mp h
    rw [List.mapM_cons]
    exact exists_bind ha fun _ => exists_bind (ih hl) fun _ => ⟨_, rfl⟩

def Readable {α : Type} (s : Schema) (read : Json → Except Mismatch α) : Prop :=
  ∀ v : Json, v ≠ .null → v.isPlain = true → admits s.toJson v = true → ∃ a, read v = .ok a

section
variable {n : Notes}

theorem readable_text : Readable (text n) asText := by
  intro v hv _ h
  obtain ⟨s, rfl⟩ := (admits_text.mp h).resolve_right fun h' => hv h'.2
  exact ⟨s, rfl⟩

theorem readable_flag : Readable (flag n) asBool := by
  intro v hv _ h
  obtain ⟨b, rfl⟩ := (admits_flag.mp h).resolve_right fun h' => hv h'.2
  exact ⟨b, rfl⟩

theorem readable_int32 : Readable (int32 n) asInt32 := by
  intro v hv hplain h
  obtain ⟨i, hi, hrange⟩ := (admits_int32.mp h).resolve_right fun h' => hv h'.2
  obtain rfl := eq_int_of_whole? hplain hi
  exact ⟨_, asInt32_int hrange⟩

theorem readable_int64 : Readable (int64 n) asInt64 := by
  intro v hv hplain h
  obtain ⟨i, hi, hrange⟩ := (admits_int64.mp h).resolve_right fun h' => hv h'.2
  obtain rfl := eq_int_of_whole? hplain hi
  exact ⟨_, asInt64_int hrange⟩

variable {α : Type} {s : Schema} {read : Json → Except Mismatch α}

theorem Readable.of_not_null (hr : Readable s read) (hnull : admits s.toJson .null = false) {v : Json}
    (hplain : v.isPlain = true) (h : admits s.toJson v = true) : ∃ a, read v = .ok a :=
  hr v (fun e => Bool.false_ne_true (hnull.symm.trans (e ▸ h))) hplain h

theorem readable_list (hr : Readable s read) (hnull : admits s.toJson .null = false) :
    Readable (list n s) (asList read) := by
  intro v hv hplain h
  obtain ⟨l, rfl, hl⟩ := (admits_list.mp h).resolve_right fun h' => hv h'.2
  exact Except.bind_ok_iff.mpr ⟨l, rfl, exists_mapM fun x hx =>
    hr.of_not_null hnull (isPlain_array.mp hplain x hx) (hl x hx)⟩

theorem readable_map (hr : Readable s read) (hnull : admits s.toJson .null = false) :
    Readable (map n s) (asMap read) := by
  intro v hv hplain h
  obtain ⟨o, rfl, _, ho⟩ := (admits_map.mp h).resolve_right fun h' => hv h'.2
  refine Except.bind_ok_iff.mpr ⟨o, rfl, exists_bind (exists_mapM fun m hm => ?_) fun _ => ⟨_, rfl⟩⟩
  exact exists_bind (hr.of_not_null hnull (isPlain_object.mp hplain m hm) (ho m hm)) fun _ => ⟨_, rfl⟩

/-! ## Records that pass -/

variable {o : Fields} {key : String}

theorem exists_member? (h : ∀ x ∈ o.values key, ∃ a, read x = .ok a) : ∃ a, o.member? key read = .ok a := by
  rw [Fields.member?]
  generalize (none : Option α) = a
  generalize o.values key = l at h
  induction l generalizing a with
  | nil => exact ⟨a, rfl⟩
  | cons x l ih =>
    obtain ⟨⟨b, hb⟩, hl⟩ := List.forall_mem_cons.mp h
    rw [List.foldlM_cons, hb]
    exact ih (some b) hl

section
variable (hplain : (Json.object o).isPlain = true) (h : ∀ x ∈ o.values key, admits s.toJson x = true)
include hplain h

/-- A member that is admitted may be `null` where `null` counts as missing. -/
theorem exists_optional (hr : Readable s read) : ∃ a, o.optional key read = .ok a := by
  have hread : ∀ x ∈ o.values key, ∃ a, asOption read x = .ok a := fun x hx => by
    by_cases hnull : x = .null
    · exact ⟨none, hnull ▸ rfl⟩
    · obtain ⟨a, ha⟩ := hr x hnull (isPlain_of_mem_values hplain hx) (h x hx)
      exact ⟨some a, by rw [Fields.asOption_of_ne hnull, ha]; rfl⟩
  obtain ⟨a, ha⟩ := exists_member? hread
  exact ⟨a.join, congrArg (Except.map _) ha⟩

theorem exists_member?_of_not_null (hr : Readable s read) (hnull : admits s.toJson .null = false) :
    ∃ a, o.member? key read = .ok a :=
  exists_member? fun x hx => hr.of_not_null hnull (isPlain_of_mem_values hplain hx) (h x hx)

theorem exists_defaulted (hr : Readable s read) (hnull : admits s.toJson .null = false) (default : α) :
    ∃ a, o.defaulted key read default = .ok a := by
  obtain ⟨a, ha⟩ := exists_member?_of_not_null hplain h hr hnull
  exact ⟨a.getD default, congrArg (Except.map _) ha⟩

theorem exists_some_member? (hr : Readable s read) (hnull : admits s.toJson .null = false)
    (hnames : (o.map (·.1)).Nodup) (hne : o.values key ≠ []) : ∃ a, o.member? key read = .ok (some a) := by
  obtain ⟨x, hvalues⟩ := (Fields.values_cases (Fields.length_values_le hnames)).resolve_left hne
  have hx : x ∈ o.values key := hvalues ▸ List.mem_singleton_self x
  obtain ⟨a, ha⟩ := hr.of_not_null hnull (isPlain_of_mem_values hplain hx) (h x hx)
  exact ⟨a, Fields.member?_of_values hvalues ha⟩

end

/-- A record is read member by member, once it is known to be an object. -/
theorem readable_record {names required : List String} {fields : List (String × Schema)}
    {readMembers : Fields → Except Mismatch α} (hfields : (fields.map (·.1)).Nodup)
    (h : ∀ o : Fields, (Json.object o).isPlain = true → (o.map (·.1)).Nodup →
      (∀ f ∈ fields, ∀ x ∈ o.values f.1, admits f.2.toJson x = true) → (∀ name ∈ required, o.values name ≠ []) →
      ∃ a, readMembers o = .ok a) :
    Readable (record n fields required) fun v => asRecord names v >>= readMembers := by
  intro v hv hplain hadmits
  obtain ⟨o, rfl, hnames, hmembers, hrequired⟩ :=
    (admits_record hfields).mp hadmits |>.resolve_right fun h' => hv h'.2
  have hobject : asRecord names (.object o) = .ok o := asRecord_object fun _ _ => Fields.length_values_le hnames
  exact Except.bind_ok_iff.mpr ⟨o, hobject, h o hplain hnames hmembers hrequired⟩

end

theorem EnvVar.readable : Readable schema ofJson? := by
  refine readable_record (by decide) fun o hplain hnames hfields hrequired => ?_
  simp only [List.forall_mem_cons] at hfields hrequired
  obtain ⟨name, value, _⟩ := hfields
  obtain ⟨a, ha⟩ := exists_some_member? hplain name readable_text rfl hnames hrequired.1
  refine Except.bind_ok_iff.mpr ⟨some a, ha, ?_⟩
  exact exists_bind (exists_defaulted hplain value readable_text rfl _) fun _ => ⟨_, rfl⟩

theorem ResourceList.readable : Readable schema ofJson? := by
  refine readable_record (by decide) fun o hplain _ hfields _ => ?_
  simp only [List.forall_mem_cons] at hfields
  obtain ⟨cpu, memory, _⟩ := hfields
  refine exists_bind (exists_optional hplain cpu readable_text) fun _ => ?_
  exact exists_bind (exists_optional hplain memory readable_text) fun _ => ⟨_, rfl⟩

theorem ResourceRequirements.readable : Readable schema ofJson? := by
  refine readable_record (by decide) fun o hplain _ hfields _ => ?_
  simp only [List.forall_mem_cons] at hfields
  obtain ⟨requests, limits, _⟩ := hfields
  refine exists_bind (exists_optional hplain limits ResourceList.readable) fun _ => ?_
  exact exists_bind (exists_optional hplain requests ResourceList.readable) fun _ => ⟨_, rfl⟩

theorem ServerSpec.readable : Readable schema ofJson? := by
  refine readable_record (by decide) fun o hplain _ hfields _ => ?_
  simp only [List.forall_mem_cons] at hfields
  obtain ⟨image, imageTag, registryOverride, replicas, port, servicePort, ingressHost, ingressPath, ingressClass,
    ingressAnnotations, envVars, imagePullSecrets, resources, _⟩ := hfields
  refine exists_bind (exists_defaulted hplain envVars (readable_list EnvVar.readable rfl) rfl _) fun _ => ?_
  refine exists_bind (exists_defaulted hplain image readable_text rfl _) fun _ => ?_
  refine exists_bind (exists_defaulted hplain imagePullSecrets (readable_list readable_text rfl) rfl _) fun _ => ?_
  refine exists_bind (exists_optional hplain imageTag readable_text) fun _ => ?_
  refine exists_bind (exists_defaulted hplain ingressAnnotations (readable_map readable_text rfl) rfl _) fun _ => ?_
  refine exists_bind (exists_optional hplain ingressClass readable_text) fun _ => ?_
  refine exists_bind (exists_optional hplain ingressHost readable_text) fun _ => ?_
  refine exists_bind (exists_optional hplain ingressPath readable_text) fun _ => ?_
  refine exists_bind (exists_optional hplain port readable_int32) fun _ => ?_
  refine exists_bind (exists_optional hplain registryOverride readable_text) fun _ => ?_
  refine exists_bind (exists_optional hplain replicas readable_int32) fun _ => ?_
  refine exists_bind (exists_optional hplain resources ResourceRequirements.readable) fun _ => ?_
  exact exists_bind (exists_optional hplain servicePort readable_int32) fun _ => ⟨_, rfl⟩

theorem Phase.readable : Readable schema ofJson? := by
  intro v hv _ h
  obtain ⟨s, hs, h⟩ := admits_anyOf.mp h
  simp only [List.mem_cons, List.not_mem_nil, or_false] at hs
  rcases hs with rfl | rfl
  · obtain ⟨name, hname, rfl⟩ := admits_choice.mp h
    obtain ⟨p, _, rfl⟩ := List.mem_map.mp hname
    exact ⟨p, Phase.undoes p⟩
  · exact absurd (admits_onlyNull.mp h) hv

theorem ServerStatus.readable : Readable schema ofJson? := by
  refine readable_record (by decide) fun o hplain _ hfields _ => ?_
  simp only [List.forall_mem_cons] at hfields
  obtain ⟨phase, message, deploymentReady, serviceReady, ingressReady, observedGeneration, _⟩ := hfields
  refine exists_bind (exists_defaulted hplain deploymentReady readable_flag rfl _) fun _ => ?_
  refine exists_bind (exists_defaulted hplain ingressReady readable_flag rfl _) fun _ => ?_
  refine exists_bind (exists_optional hplain message readable_text) fun _ => ?_
  refine exists_bind (exists_optional hplain observedGeneration readable_int64) fun _ => ?_
  refine exists_bind (exists_optional hplain phase Phase.readable) fun _ => ?_
  exact exists_bind (exists_defaulted hplain serviceReady readable_flag rfl _) fun _ => ⟨_, rfl⟩

/-! ## Servers -/

namespace Server

structure Decodes (o : Fields) : Prop where
  spec : ∃ spec, o.member? "spec" ServerSpec.ofJson? = .ok (some spec)
  status : ∃ status, o.optional "status" ServerStatus.ofJson? = .ok status
  server : ∀ v metadata, Metadata.ofJson? v = .ok metadata →
    ∃ server : Server, ofJson? (.object (o.set "metadata" v)) = .ok server ∧ server.metadata = metadata

theorem decodes {v : Json} (hplain : v.isPlain = true) (h : admits schema.toJson v = true) :
    ∃ o : Fields, v = .object o ∧ Decodes o := by
  obtain ⟨o, rfl, hnames, hfields, hrequired⟩ :=
    (admits_record (by decide)).mp h |>.resolve_right fun h' => nomatch h'.1
  simp only [List.forall_mem_cons] at hfields hrequired
  obtain ⟨hspec, hstatus, _⟩ := hfields
  obtain ⟨spec, hspec⟩ := exists_some_member? hplain hspec ServerSpec.readable rfl hnames hrequired.1
  obtain ⟨status, hstatus⟩ := exists_optional hplain hstatus ServerStatus.readable
  refine ⟨o, rfl, ⟨spec, hspec⟩, ⟨status, hstatus⟩, fun v metadata hv => ?_⟩
  have hone (key : String) : (o.values key).length ≤ 1 := Fields.length_values_le hnames
  have hset : (o.set "metadata" v).values "metadata" = [v] := Fields.values_set_self v (hone _)
  have hkept {key : String} (hkey : "metadata" ≠ key) : (o.set "metadata" v).values key = o.values key :=
    Fields.values_set_ne v hkey
  refine ⟨⟨metadata, spec, status⟩, ofJson?_ok_iff.mpr ⟨_, rfl, ?_, ?_, ?_, ?_⟩, rfl⟩
  · refine Fields.distinct_ok_iff.mpr fun key _ => ?_
    by_cases hkey : "metadata" = key
    · subst hkey
      exact Nat.le_of_eq (congrArg List.length hset)
    · rw [hkept hkey]
      exact hone key
  · exact Fields.member?_of_values hset hv
  · rw [← hspec, Fields.member?, hkept (by decide)]
    rfl
  · rw [← hstatus, Fields.optional, Fields.member?, hkept (by decide)]
    rfl

def Definition.schemaAt? (path : String) : Option Json :=
  toJson.at? ("/spec/versions/0/schema/openAPIV3Schema" ++ path)

end Server

open Server.Definition (schemaAt?)

/-- Every spec, every status and every server passes its schema as the operator writes it, and every plain value that
passes the schema is an object whose spec and status are read. -/
theorem schema_and_types_agree :
    (∃ schema, schemaAt? "/properties/spec" = some schema ∧ ∀ s : ServerSpec, admits schema s.toJson = true) ∧
    (∃ schema, schemaAt? "/properties/status" = some schema ∧ ∀ s : ServerStatus, admits schema s.toJson = true) ∧
    ∃ schema, schemaAt? "" = some schema ∧ (∀ s : Server, admits schema s.toJson = true) ∧
      ∀ v : Json, v.isPlain = true → admits schema v = true → ∃ o : Fields, v = .object o ∧ Server.Decodes o :=
  ⟨⟨_, rfl, ServerSpec.admitted⟩, ⟨_, rfl, ServerStatus.admitted⟩, _, rfl, Server.admitted, fun _ => Server.decodes⟩

def looseDocument : Fields := [
  ("status", .null),
  ("spec", .object [("port", .int 8080), ("replicas", .null), ("weight", .decimal ⟨false, 5, -1⟩),
    ("envVars", .array [.object [("name", .string "LOG_LEVEL")]])])]

theorem schema_and_types_agree_sample : ∃ server : Server,
    Server.ofJson? (.object (looseDocument.set "metadata" (.object [("name", .string "search")]))) = .ok server ∧
      server.metadata = { name := some "search" } := by
  obtain ⟨_, _, schema, hschema, _, hread⟩ := schema_and_types_agree
  obtain rfl : schema = Server.schema.toJson := Option.some.inj (hschema.symm.trans rfl)
  obtain ⟨o, ho, hdecodes⟩ := hread (.object looseDocument) (by decide) (by decide)
  cases ho
  exact hdecodes.server _ _ rfl

/-- A whole number with a fraction passes, but is not read. -/
example : admits ServerSpec.schema.toJson (.object [("port", .decimal ⟨false, 80800, -1⟩)]) = true ∧
    (ServerSpec.ofJson? (.object [("port", .decimal ⟨false, 80800, -1⟩)])).isOk = false := by decide

/-! ## Listings -/

/-- An admitted object as it is served, with its metadata. -/
def Server.Served (v : Json) : Prop := ∃ o m metadata, (Json.object o).isPlain = true ∧
  admits schema.toJson (.object o) = true ∧ Metadata.ofJson? m = .ok metadata ∧ v = .object (Fields.set "metadata" m o)

/-- A listing of admitted objects is read as a whole. -/
theorem listing_of_admitted_is_read {items : List Json} (h : ∀ v ∈ items, Server.Served v) (version : String) :
    ∃ l, Listing.ofJson? Server.ofJson? (Listing.toJson { items, version }) = .ok l := by
  obtain ⟨servers, hservers⟩ : ∃ servers, asList Server.ofJson? (.array items) = .ok servers := by
    refine Except.bind_ok_iff.mpr ⟨items, rfl, exists_mapM fun v hv => ?_⟩
    obtain ⟨o, m, metadata, hplain, hadmitted, hm, rfl⟩ := h v hv
    obtain ⟨o', ho, hdecodes⟩ := Server.decodes hplain hadmitted
    cases ho
    obtain ⟨server, hserver, _⟩ := hdecodes.server m metadata hm
    exact ⟨server, hserver⟩
  let o : Fields := [("metadata", .object [("resourceVersion", .string version)]), ("items", .array items)]
  have hitems : o.required "items" (asOption (asList Server.ofJson?)) = .ok (some servers) := by
    refine bind_of_ok (Fields.member?_of_values (v := .array items) (by simp [o]) ?_) rfl
    exact (Fields.asOption_of_ne (v := .array items) nofun).trans (congrArg (Except.map some) hservers)
  refine ⟨{ items := servers, version }, bind_of_ok (b := o) rfl ?_⟩
  refine bind_of_ok (Fields.distinct_ok_iff.mpr (by simp [o])) (bind_of_ok (b := ()) rfl ?_)
  exact bind_of_ok (b := (version, "")) rfl (bind_of_ok hitems rfl)

end ServerOperator
