import ServerOperator.Proofs.Faults
import ServerOperator.Proofs.Merging
import ServerOperator.Server.Wire

/-!
# Reading what was written

What a record is read as depends on the values of each of its members only, in whatever order they stand. So a
record that is written member by member is read back as it was, and a server is: reading undoes writing.
-/

namespace ServerOperator

theorem SortedMap.ofList_entries {β : Type} (m : SortedMap β) : ofList m.entries = m :=
  ext_get? fun key => by
    show ((∅ : SortedMap β).union m).get? key = _
    rw [get?_union, get?_empty, Option.or_none]

namespace Json

variable {α : Type}

/-! ## Values of members -/

namespace Fields

variable {o : Fields} {key name : String} {read : Json → Except Mismatch α} {write : α → Json}

@[simp]
theorem values_nil : values [] key = [] := rfl

@[simp]
theorem values_cons (v : Json) (o : Fields) :
    values ((name, v) :: o) key = if name = key then v :: o.values key else o.values key := by
  by_cases h : name = key <;> simp [values, h]

@[simp]
theorem values_append (o o' : Fields) : values (o ++ o') key = o.values key ++ o'.values key := by
  rw [values, List.filter_append, List.map_append]
  rfl

@[simp]
theorem values_member (a : Option α) :
    values (member name write a) key = if name = key then (a.map write).toList else [] := by
  cases a <;> simp [member]

@[simp]
theorem values_memberUnlessEmpty (isEmpty : Bool) (v : Json) :
    values (ServerSpec.memberUnlessEmpty name isEmpty v) key =
      if name = key then (if isEmpty then none else some v).toList else [] := by
  cases isEmpty <;> simp [ServerSpec.memberUnlessEmpty]

theorem values_eq_nil (h : key ∉ o.map (·.1)) : o.values key = [] := by
  rw [values, List.map_eq_nil_iff, List.filter_eq_nil_iff]
  exact fun m hm => by simpa using fun e : m.1 = key => h (e ▸ List.mem_map_of_mem hm)

theorem values_set (v : Json) :
    (o.set name v).values key = if name = key then v :: (o.values key).tail else o.values key := by
  induction o with
  | nil =>
    rw [set, values_cons]
    rfl
  | cons m o ih =>
    obtain ⟨k, w⟩ := m
    by_cases hk : k = name
    · subst hk
      rw [set, if_pos rfl, values_cons, values_cons]
      split <;> rfl
    · rw [set, if_neg hk, values_cons, values_cons, ih]
      by_cases h : name = key
      · subst h
        rw [if_neg hk, if_neg hk]
      · rw [if_neg h, if_neg h]

theorem values_set_self (v : Json) (h : (o.values key).length ≤ 1) : (o.set key v).values key = [v] := by
  have htail : (o.values key).tail = [] := List.eq_nil_of_length_eq_zero (by rw [List.length_tail]; omega)
  rw [values_set, if_pos rfl, htail]

theorem values_set_ne (v : Json) (h : name ≠ key) : (o.set name v).values key = o.values key := by
  rw [values_set, if_neg h]

theorem length_values_le (h : (o.map (·.1)).Nodup) : (o.values key).length ≤ 1 := by
  induction o with
  | nil => exact Nat.zero_le _
  | cons m o ih =>
    obtain ⟨name, v⟩ := m
    obtain ⟨hname, ho⟩ := List.nodup_cons.mp h
    rw [values_cons]
    split
    · next hkey =>
      subst hkey
      rw [values_eq_nil hname]
      exact Nat.le_refl 1
    · exact ih ho

/-- Where a name stands once at most, a member has one value or none. -/
theorem values_cases (h : (o.values key).length ≤ 1) : o.values key = [] ∨ ∃ v, o.values key = [v] := by
  cases hvalues : o.values key with
  | nil => exact .inl rfl
  | cons v rest =>
    rw [hvalues] at h
    obtain rfl : rest = [] := List.eq_nil_of_length_eq_zero (Nat.le_zero.mp (Nat.le_of_succ_le_succ h))
    exact .inr ⟨v, rfl⟩

theorem distinct_ok_iff {names : List String} :
    o.distinct names = .ok () ↔ ∀ key ∈ names, (o.values key).length ≤ 1 := by
  induction names with
  | nil => exact ⟨fun _ => List.forall_mem_nil _, fun _ => rfl⟩
  | cons name names ih =>
    rw [List.forall_mem_cons, ← ih, distinct]
    split
    · next h => exact ⟨nofun, fun h' => absurd h'.1 (Nat.not_le.mpr h)⟩
    · next h => exact ⟨fun h' => ⟨Nat.not_lt.mp h, h'⟩, fun h' => h'.2⟩

/-- The one value of a member is `v`, or there is none, where `v` is `null`. -/
def Shows (o : Fields) (key : String) (v : Json) : Prop := o.values key = [v] ∨ v = .null ∧ o.values key = []

end Fields

/-! ## Reading back -/

theorem bind_of_ok {ε β γ : Type} {x : Except ε β} {f : β → Except ε γ} {b : β} {c : γ} (hx : x = .ok b)
    (hf : f b = .ok c) : x >>= f = .ok c := by
  rw [hx]
  exact hf

def Undoes (read : Json → Except Mismatch α) (write : α → Json) : Prop := ∀ a, read (write a) = .ok a

namespace Fields

variable {o : Fields} {key : String} {read : Json → Except Mismatch α} {write : α → Json}

theorem member?_of_none (h : o.values key = []) : o.member? key read = .ok none := by
  rw [member?, h]
  rfl

theorem member?_of_values {v : Json} {a : α} (h : o.values key = [v]) (hread : read v = .ok a) :
    o.member? key read = .ok (some a) := by
  rw [member?, h]
  show (read v).map some >>= pure = _
  rw [hread]
  rfl

theorem member?_of_value (hu : Undoes read write) {a : α} (h : o.values key = [write a]) :
    o.member? key read = .ok (some a) :=
  member?_of_values h (hu a)

theorem asOption_of_ne {v : Json} (hv : v ≠ .null) : asOption read v = (read v).map some := by
  cases v <;> first | rfl | exact absurd rfl hv

theorem optional_of_values {v : Json} {a : α} (h : o.values key = [v]) (hv : v ≠ .null) (hread : read v = .ok a) :
    o.optional key read = .ok (some a) := by
  rw [optional, member?_of_values h ((asOption_of_ne hv).trans (congrArg (Except.map some) hread))]
  rfl

/-- A setting that is missing or `null` when it is unset is read back. -/
theorem optional_of_shows (hu : Undoes read write) (hnull : ∀ a, write a ≠ .null) {a : Option α}
    (h : o.Shows key (ofOption write a)) : o.optional key read = .ok a := by
  cases a with
  | some a =>
    have hvalues := h.resolve_right fun h' => hnull a h'.1
    exact optional_of_values hvalues (hnull a) (hu a)
  | none =>
    rcases h with h | ⟨_, h⟩
    · rw [optional, member?_of_values (a := none) h rfl]
      rfl
    · rw [optional, member?_of_none h]
      rfl

/-- A setting that is left out when it is unset is read back. -/
theorem optional_of_member (hu : Undoes read write) (hnull : ∀ a, write a ≠ .null) {a : Option α}
    (h : o.values key = (a.map write).toList) : o.optional key read = .ok a :=
  optional_of_shows hu hnull <| by
    cases a with
    | none => exact .inr ⟨rfl, h⟩
    | some a => exact .inl h

theorem defaulted_of_value (hu : Undoes read write) {a default : α} (h : o.values key = [write a]) :
    o.defaulted key read default = .ok a := by
  rw [defaulted, member?_of_value hu h]
  rfl

/-- A setting that is left out when it is empty is read back. -/
theorem defaulted_of_memberUnlessEmpty (hu : Undoes read write) {a default : α} {isEmpty : Bool}
    (hempty : isEmpty = true → a = default) (h : o.values key = (if isEmpty then none else some (write a)).toList) :
    o.defaulted key read default = .ok a := by
  cases isEmpty with
  | false => exact defaulted_of_value hu h
  | true =>
    rw [defaulted, member?_of_none h, hempty rfl]
    rfl

theorem filled_of_value (hu : Undoes read write) (hnull : ∀ a, write a ≠ .null) {a default : α}
    (h : o.values key = [write a]) : o.filled key read default = .ok a := by
  rw [filled, optional_of_values h (hnull a) (hu a)]
  rfl

end Fields

/-! ## Parts -/

theorem undoes_asText : Undoes asText .string := fun _ => rfl

theorem undoes_asBool : Undoes asBool .bool := fun _ => rfl

theorem asInt32_int {n : Int} (h : Int32.minValue.toInt ≤ n ∧ n ≤ Int32.maxValue.toInt) :
    asInt32 (.int n) = .ok (.ofInt n) := by
  have hread : (int n).int32? = some (.ofInt n) := if_pos (by simp only [Bool.and_eq_true, decide_eq_true_eq]; exact h)
  rw [asInt32, asInteger, hread]

theorem asInt64_int {n : Int} (h : Int64.minValue.toInt ≤ n ∧ n ≤ Int64.maxValue.toInt) :
    asInt64 (.int n) = .ok (.ofInt n) := by
  have hread : (int n).int64? = some (.ofInt n) := if_pos (by simp only [Bool.and_eq_true, decide_eq_true_eq]; exact h)
  rw [asInt64, asInteger, hread]

theorem undoes_asInt32 : Undoes asInt32 ofInt32 := fun n =>
  (asInt32_int ⟨n.minValue_le_toInt, n.toInt_le⟩).trans (congrArg Except.ok n.ofInt_toInt)

theorem undoes_asInt64 : Undoes asInt64 ofInt64 := fun n =>
  (asInt64_int ⟨n.minValue_le_toInt, n.toInt_le⟩).trans (congrArg Except.ok n.ofInt_toInt)

theorem undoes_asList {read : Json → Except Mismatch α} {write : α → Json} (hu : Undoes read write) :
    Undoes (asList read) (ofList write) := fun l => by
  show (l.map write).mapM read = .ok l
  induction l with
  | nil => rfl
  | cons a l ih => rw [List.map_cons, List.mapM_cons, hu a, ih]; rfl

theorem undoes_asMap {read : Json → Except Mismatch α} {write : α → Json} (hu : Undoes read write) :
    Undoes (asMap read) (ofMap write) := fun m => by
  have hentries (l : List (String × α)) : (l.map fun e => (e.1, write e.2)).mapM
      (fun e => return (e.1, ← read e.2)) = (.ok l : Except Mismatch _) := by
    induction l with
    | nil => rfl
    | cons e l ih => simp only [List.map_cons, List.mapM_cons, hu e.2, ih]; rfl
  refine bind_of_ok (rfl : asFields (ofMap write m) = _) ?_
  exact bind_of_ok (hentries m.entries) (congrArg Except.ok m.ofList_entries)

theorem asFields_ok {v : Json} {o : Fields} (h : asFields v = .ok o) : v = .object o := by
  cases v <;> first | cases h; rfl | cases h

theorem present_ok {key : String} {a : Option α} {b : α} (h : present key a = .ok b) : a = some b := by
  cases a <;> cases h
  rfl

/-! ## Foreign members -/

theorem Fields.values_of_keysIncrease {o : Fields} (h : KeysIncrease o) (key : String) :
    o.values key = (SortedMap.find? key o).toList := by
  induction o with
  | nil => rfl
  | cons m o ih =>
    obtain ⟨name, v⟩ := m
    obtain ⟨hname, ho⟩ := List.pairwise_cons.mp h
    by_cases hkey : name = key
    · subst hkey
      rw [values_cons, if_pos rfl, ih ho, SortedMap.find?_eq_none_of_lt hname, SortedMap.find?, if_pos rfl]
      rfl
    · rw [values_cons, if_neg hkey, ih ho, SortedMap.find?, if_neg hkey]

namespace Foreign

variable {names : List String} (f : Foreign names) {key : String}

theorem get?_eq_none (h : key ∉ names) : f.members.get? key = none :=
  Option.eq_none_iff_forall_not_mem.mpr fun v hv => h (f.known key v hv).1

@[simp]
theorem values_toFields :
    f.toFields.values key = if key ∈ names then (f.members.get? key).toList else [] := by
  rw [toFields, Fields.values_of_keysIncrease f.members.increasing]
  split
  · rfl
  · next h => exact congrArg Option.toList (f.get?_eq_none h)

/-- They are read back from an object that has no other members of their names. -/
theorem ofFields_append {o : Fields} (h : ∀ key ∈ names, o.values key = []) : ofFields (o ++ f.toFields) = f := by
  refine ext (SortedMap.ext_get? fun key => ?_)
  rw [ofFields, get?_select]
  split
  · next hkey =>
    rw [Fields.given?, Fields.values_append, h key hkey, values_toFields, if_pos hkey]
    cases hv : f.members.get? key with
    | none => rfl
    | some v => exact Option.filter_eq_some_iff.mpr ⟨rfl, decide_eq_true (f.known key v hv).2⟩
  · next hkey => exact (f.get?_eq_none hkey).symm

end Foreign

end Json

/-! ## Records -/

open Json

/-- A record that is written as an object with distinct members is read member by member. -/
theorem Json.asRecord_object {names : List String} {o : Fields} (h : ∀ key ∈ names, (o.values key).length ≤ 1) :
    asRecord names (.object o) = .ok o := by
  rw [asRecord, Fields.distinct_ok_iff.mpr h]
  rfl

theorem EnvVar.undoes : Undoes ofJson? toJson := fun e => by
  refine bind_of_ok (asRecord_object (by simp)) ?_
  refine bind_of_ok (Fields.member?_of_value undoes_asText (a := e.name) (by simp)) ?_
  exact bind_of_ok (Fields.defaulted_of_value undoes_asText (a := e.value) (by simp)) rfl

theorem ResourceList.undoes : Undoes ofJson? toJson := fun r => by
  refine bind_of_ok (asRecord_object (by simp [Option.length_toList_le])) ?_
  refine bind_of_ok (Fields.optional_of_member undoes_asText nofun (a := r.cpu) (by simp)) ?_
  exact bind_of_ok (Fields.optional_of_member undoes_asText nofun (a := r.memory) (by simp)) rfl

theorem ResourceRequirements.undoes : Undoes ofJson? toJson := fun r => by
  refine bind_of_ok (asRecord_object (by simp [Option.length_toList_le])) ?_
  refine bind_of_ok (Fields.optional_of_member ResourceList.undoes nofun (a := r.limits) (by simp)) ?_
  exact bind_of_ok (Fields.optional_of_member ResourceList.undoes nofun (a := r.requests) (by simp)) rfl

theorem SortedMap.eq_empty_of_isEmpty {β : Type} {m : SortedMap β} (h : m.isEmpty = true) : m = ∅ :=
  ext (List.isEmpty_iff.mp h)

theorem ServerSpec.undoes : Undoes ofJson? toJson := fun s => by
  -- The steps are those of the reader, which goes by the alphabet and not by the order of writing.
  refine bind_of_ok (asRecord_object (by simp [fieldNames, Option.length_toList_le])) ?_
  refine bind_of_ok (Fields.defaulted_of_memberUnlessEmpty (undoes_asList EnvVar.undoes) (a := s.envVars)
    List.isEmpty_iff.mp (by simp)) ?_
  refine bind_of_ok (Fields.defaulted_of_value undoes_asText (a := s.image) (by simp)) ?_
  refine bind_of_ok (Fields.defaulted_of_memberUnlessEmpty (undoes_asList undoes_asText) (a := s.imagePullSecrets)
    List.isEmpty_iff.mp (by simp)) ?_
  refine bind_of_ok (Fields.optional_of_member undoes_asText nofun (a := s.imageTag) (by simp)) ?_
  refine bind_of_ok (Fields.defaulted_of_memberUnlessEmpty (undoes_asMap undoes_asText) (a := s.ingressAnnotations)
    SortedMap.eq_empty_of_isEmpty (by simp)) ?_
  refine bind_of_ok (Fields.optional_of_member undoes_asText nofun (a := s.ingressClass) (by simp)) ?_
  refine bind_of_ok (Fields.optional_of_member undoes_asText nofun (a := s.ingressHost) (by simp)) ?_
  refine bind_of_ok (Fields.optional_of_member undoes_asText nofun (a := s.ingressPath) (by simp)) ?_
  refine bind_of_ok (Fields.optional_of_member undoes_asInt32 nofun (a := s.port) (by simp)) ?_
  refine bind_of_ok (Fields.optional_of_member undoes_asText nofun (a := s.registryOverride) (by simp)) ?_
  refine bind_of_ok (Fields.optional_of_member undoes_asInt32 nofun (a := s.replicas) (by simp)) ?_
  refine bind_of_ok (Fields.optional_of_member ResourceRequirements.undoes nofun (a := s.resources) (by simp)) ?_
  exact bind_of_ok (Fields.optional_of_member undoes_asInt32 nofun (a := s.servicePort) (by simp)) rfl

theorem Phase.undoes : Undoes ofJson? toJson := fun p => by cases p <;> rfl

/-- A status is read back from any object that shows its members. -/
theorem ServerStatus.ofJson?_of_shows {s : ServerStatus} {o : Fields}
    (h : ∀ m ∈ s.toJson.fields?.getD [], o.Shows m.1 m.2) : ofJson? (.object o) = .ok s := by
  have hlength {key : String} {v : Json} (h : o.Shows key v) : (o.values key).length ≤ 1 := by
    rcases h with h | ⟨_, h⟩ <;> simp [h]
  have hflag {key : String} {b : Bool} (h : o.Shows key (.bool b)) : o.defaulted key asBool false = .ok b :=
    Fields.defaulted_of_value undoes_asBool (h.resolve_right fun h' => nomatch h'.1)
  simp only [toJson, fields?, Option.getD_some, List.forall_mem_cons] at h
  obtain ⟨phase, message, deploymentReady, serviceReady, ingressReady, observedGeneration, _⟩ := h
  refine bind_of_ok (asRecord_object ?_) ?_
  · simp only [fieldNames, List.forall_mem_cons]
    exact ⟨hlength phase, hlength message, hlength deploymentReady, hlength serviceReady, hlength ingressReady,
      hlength observedGeneration, List.forall_mem_nil _⟩
  refine bind_of_ok (hflag deploymentReady) ?_
  refine bind_of_ok (hflag ingressReady) ?_
  refine bind_of_ok (Fields.optional_of_shows undoes_asText nofun message) ?_
  refine bind_of_ok (Fields.optional_of_shows undoes_asInt64 nofun observedGeneration) ?_
  refine bind_of_ok (Fields.optional_of_shows Phase.undoes nofun phase) ?_
  exact bind_of_ok (hflag serviceReady) rfl

theorem ServerStatus.undoes : Undoes ofJson? toJson := fun s =>
  ofJson?_of_shows fun m hm => .inl <| by
    simp only [toJson, fields?, Option.getD_some, List.mem_cons, List.not_mem_nil, or_false] at hm
    rcases hm with rfl | rfl | rfl | rfl | rfl | rfl <;> simp

theorem OwnerReference.undoes : Undoes ofJson? toJson := fun r => by
  refine bind_of_ok rfl ?_
  refine bind_of_ok (Fields.filled_of_value undoes_asText nofun (a := r.apiVersion) (by simp)) ?_
  refine bind_of_ok (Fields.optional_of_member undoes_asBool nofun (a := r.blockOwnerDeletion) (by simp)) ?_
  refine bind_of_ok (Fields.optional_of_member undoes_asBool nofun (a := r.controller) (by simp)) ?_
  refine bind_of_ok (Fields.filled_of_value undoes_asText nofun (a := r.kind) (by simp)) ?_
  refine bind_of_ok (Fields.filled_of_value undoes_asText nofun (a := r.name) (by simp)) ?_
  exact bind_of_ok (Fields.filled_of_value undoes_asText nofun (a := r.uid) (by simp)) rfl

theorem Metadata.undoes : Undoes ofJson? toJson := fun m => by
  refine bind_of_ok rfl ?_
  refine bind_of_ok (Fields.optional_of_member (undoes_asMap undoes_asText) nofun (a := m.annotations) (by simp)) ?_
  refine bind_of_ok (Fields.optional_of_member undoes_asInt64 nofun (a := m.deletionGracePeriodSeconds) (by simp)) ?_
  refine bind_of_ok (Fields.optional_of_member (undoes_asList undoes_asText) nofun (a := m.finalizers) (by simp)) ?_
  refine bind_of_ok (Fields.optional_of_member undoes_asText nofun (a := m.generateName) (by simp)) ?_
  refine bind_of_ok (Fields.optional_of_member undoes_asInt64 nofun (a := m.generation) (by simp)) ?_
  refine bind_of_ok (Fields.optional_of_member (undoes_asMap undoes_asText) nofun (a := m.labels) (by simp)) ?_
  refine bind_of_ok (Fields.optional_of_member undoes_asText nofun (a := m.name) (by simp)) ?_
  refine bind_of_ok (Fields.optional_of_member undoes_asText nofun (a := m.ns) (by simp)) ?_
  refine bind_of_ok (Fields.optional_of_member (undoes_asList OwnerReference.undoes) nofun (a := m.ownerReferences)
    (by simp)) ?_
  refine bind_of_ok (Fields.optional_of_member undoes_asText nofun (a := m.resourceVersion) (by simp)) ?_
  refine bind_of_ok (Fields.optional_of_member undoes_asText nofun (a := m.uid) (by simp)) ?_
  refine congrArg (fun foreign => Except.ok { m with foreign }) (m.foreign.ofFields_append ?_)
  simp

theorem Server.ofJson?_ok_iff {v : Json} {s : Server} : ofJson? v = .ok s ↔ ∃ o : Fields, v = .object o ∧
    o.distinct ["metadata", "spec", "status"] = .ok () ∧
    o.member? "metadata" Metadata.ofJson? = .ok (some s.metadata) ∧
    o.member? "spec" ServerSpec.ofJson? = .ok (some s.spec) ∧
    o.optional "status" ServerStatus.ofJson? = .ok s.status := by
  refine ⟨fun h => ?_, fun ⟨o, hv, hdistinct, hmetadata, hspec, hstatus⟩ => ?_⟩
  · obtain ⟨o, hv, h⟩ := Except.bind_eq_ok h
    obtain ⟨_, hdistinct, h⟩ := Except.bind_eq_ok h
    obtain ⟨metadata?, hmetadata, h⟩ := Except.bind_eq_ok h
    obtain ⟨spec?, hspec, h⟩ := Except.bind_eq_ok h
    obtain ⟨status, hstatus, h⟩ := Except.bind_eq_ok h
    obtain ⟨metadata, hm, h⟩ := Except.bind_eq_ok h
    obtain ⟨spec, hs, h⟩ := Except.bind_eq_ok h
    cases h
    exact ⟨o, asFields_ok hv, hdistinct, present_ok hm ▸ hmetadata, present_ok hs ▸ hspec, hstatus⟩
  · subst hv
    refine bind_of_ok rfl (bind_of_ok hdistinct ?_)
    exact bind_of_ok hmetadata (bind_of_ok hspec (bind_of_ok hstatus (bind_of_ok rfl (bind_of_ok rfl rfl))))

@[simp]
theorem TypeTag.values_toFields (t : TypeTag) (key : String) : t.toFields.values key =
    if "apiVersion" = key then [.string t.apiVersion] else if "kind" = key then [.string t.kind] else [] := by
  by_cases h : "apiVersion" = key
  · subst h
    simp [toFields]
  · simp [toFields, h]

theorem Server.undoes : Undoes ofJson? toJson := fun s => by
  refine ofJson?_ok_iff.mpr ⟨_, rfl, ?_, ?_, ?_, ?_⟩
  · exact Fields.distinct_ok_iff.mpr (by simp [Option.length_toList_le])
  · exact Fields.member?_of_value Metadata.undoes (by simp)
  · exact Fields.member?_of_value ServerSpec.undoes (by simp)
  · exact Fields.optional_of_member ServerStatus.undoes nofun (by simp)

end ServerOperator
