import ServerOperator.Proofs.Reading
import ServerOperator.Schema

/-!
# Validity under a schema

A schema in JSON is read keyword by keyword, as an API server does: `null` passes a type only where it is allowed,
members that are not named pass, and a number is an integer if it is a whole one, however it is written.
For each kind of schema one law says which values it admits; from there on no keyword is looked at any more.
-/

namespace ServerOperator

def Decimal.whole? (d : Decimal) : Option Int :=
  let divisor := Nat.pow 10 (-d.exponent).toNat
  if divisor ∣ d.digits then
    let magnitude := d.digits * Nat.pow 10 d.exponent.toNat / divisor
    some (if d.negative then -magnitude else magnitude)
  else none

namespace Json

def isNull : Json → Bool
  | null => true
  | _ => false

def whole? : Json → Option Int
  | int n => some n
  | decimal d => d.whole?
  | _ => none

/-- Enumerations are of constants, whole numbers and texts; nothing else stands in one. -/
def same : Json → Json → Bool
  | null, null => true
  | bool a, bool b => a == b
  | int m, int n => m == n
  | string s, string t => s == t
  | _, _ => false

/-! ## Keywords -/

/-- No name stands twice in what an API server takes for an object. -/
def hasType (v : Json) : Json → Bool
  | string "string" => v.text?.isSome
  | string "boolean" => v.bool?.isSome
  | string "integer" => v.whole?.isSome
  | string "array" => v.items?.isSome
  | string "object" => v.fields?.any fun o => (o.map (·.1)).Nodup
  | _ => false

def hasFormat (v : Json) : Json → Bool
  | string "int32" => v.whole?.all fun n => Int32.minValue.toInt ≤ n && n ≤ Int32.maxValue.toInt
  | string "int64" => v.whole?.all fun n => Int64.minValue.toInt ≤ n && n ≤ Int64.maxValue.toInt
  | _ => true

section
variable (v : Json)

@[simp] theorem hasType_string : v.hasType (string "string") = v.text?.isSome := rfl

@[simp] theorem hasType_boolean : v.hasType (string "boolean") = v.bool?.isSome := rfl

@[simp] theorem hasType_integer : v.hasType (string "integer") = v.whole?.isSome := rfl

@[simp] theorem hasType_array : v.hasType (string "array") = v.items?.isSome := rfl

@[simp]
theorem hasType_object : v.hasType (string "object") = v.fields?.any fun o => (o.map (·.1)).Nodup :=
  rfl

@[simp]
theorem hasFormat_int32 : v.hasFormat (string "int32") =
    v.whole?.all fun n => Int32.minValue.toInt ≤ n && n ≤ Int32.maxValue.toInt :=
  rfl

@[simp]
theorem hasFormat_int64 : v.hasFormat (string "int64") =
    v.whole?.all fun n => Int64.minValue.toInt ≤ n && n ≤ Int64.maxValue.toInt :=
  rfl

end

def hasMembers (v names : Json) : Bool :=
  v.fields?.all fun o => (names.items?.getD []).all fun name => name.text?.all fun s => !(o.values s).isEmpty

namespace Fields

def nullable (keywords : Fields) : Bool := ((keywords.find? "nullable").bind bool?).getD false

def properties (keywords : Fields) : Fields := ((keywords.find? "properties").bind fields?).getD []

def additional (properties : Fields) (v : Json) : List Json :=
  ((v.fields?.getD []).filter fun m => (properties.find? m.1).isNone).map (·.2)

end Fields

mutual

/-- Whether the value passes the schema. Keywords that are not known are passed over. -/
def admits : (schema : Json) → (v : Json) → Bool
  | object keywords, v => admitsAll (Fields.nullable keywords) (Fields.properties keywords) keywords v
  | _, _ => false
termination_by structural schema => schema

def admitsAll (nullable : Bool) (properties : Fields) : (keywords : List (String × Json)) → (v : Json) → Bool
  | [], _ => true
  | k :: rest, v => admitsKeyword nullable properties k v && admitsAll nullable properties rest v
termination_by structural keywords => keywords

def admitsKeyword (nullable : Bool) (properties : Fields) : (keyword : String × Json) → (v : Json) → Bool
  | ("type", type), v => v.hasType type || nullable && v.isNull
  | ("format", format), v => v.hasFormat format
  | ("enum", values), v => (values.items?.getD []).any v.same
  | ("required", names), v => v.hasMembers names
  | ("items", schema), v => (v.items?.getD []).all fun x => admits schema x
  | ("properties", object schemas), v => admitsMembers schemas (v.fields?.getD [])
  | ("additionalProperties", schema), v => (Fields.additional properties v).all fun x => admits schema x
  | ("anyOf", array schemas), v => admitsAny schemas v
  | _, _ => true
termination_by structural keyword => keyword

def admitsMembers : List (String × Json) → Fields → Bool
  | [], _ => true
  | (name, schema) :: rest, o => ((Fields.values o name).all fun x => admits schema x) && admitsMembers rest o
termination_by structural schemas => schemas

def admitsAny : List Json → Json → Bool
  | [], _ => false
  | schema :: rest, v => admits schema v || admitsAny rest v
termination_by structural schemas => schemas

end

end Json

/-! ## The order of entries -/

namespace SortedMap

variable {β : Type}

theorem place_perm {key : String} {value : β} {l : List (String × β)} (h : key ∉ l.map (·.1)) :
    (place key value l).Perm ((key, value) :: l) := by
  induction l with
  | nil => exact .refl _
  | cons e l ih =>
    obtain ⟨k, v⟩ := e
    obtain ⟨hk, hl⟩ := not_or.mp (mt List.mem_cons.mpr h)
    rw [place, if_neg (show ¬ key = k from hk)]
    split
    · exact .refl _
    · exact ((ih hl).cons _).trans (.swap ..)

theorem foldl_insert_perm {l : List (String × β)} {m : SortedMap β} (h : ((l ++ m.entries).map (·.1)).Nodup) :
    (l.foldl (fun m e => m.insert e.1 e.2) m).entries.Perm (l ++ m.entries) := by
  induction l generalizing m with
  | nil => exact .refl _
  | cons e l ih =>
    have hnew : e.1 ∉ m.entries.map (·.1) := fun hmem =>
      (List.nodup_cons.mp h).1 (List.map_append ▸ List.mem_append_right _ hmem)
    have hplace : (place e.1 e.2 m.entries).Perm (e :: m.entries) := place_perm hnew
    have hmoved : (l ++ place e.1 e.2 m.entries).Perm (e :: (l ++ m.entries)) :=
      (hplace.append_left l).trans List.perm_middle
    exact (ih ((hmoved.map _).nodup_iff.mpr h)).trans hmoved

theorem ofList_perm {l : List (String × β)} (h : (l.map (·.1)).Nodup) : (ofList l).entries.Perm l := by
  have hempty : l ++ (∅ : SortedMap β).entries = l := List.append_nil l
  have hfold := foldl_insert_perm (l := l) (m := ∅) (by rwa [hempty])
  rwa [hempty] at hfold

theorem find?_perm {l l' : List (String × β)} (hp : l.Perm l') (h : (l.map (·.1)).Nodup) (key : String) :
    find? key l = find? key l' := by
  induction hp with
  | nil => rfl
  | cons e _ ih => rw [find?, find?, ih (List.nodup_cons.mp h).2]
  | swap e e' l =>
    have hne : e'.1 ≠ e.1 := fun he => (List.nodup_cons.mp h).1 (List.mem_cons.mpr (.inl he))
    rw [find?, find?, find?, find?]
    split
    · next hk => rw [if_neg fun hk' => hne (hk.trans hk'.symm)]
    · rfl
  | trans hp _ ih ih' => exact (ih h).trans (ih' ((hp.map _).nodup_iff.mp h))

theorem find?_eq_none {key : String} {l : List (String × β)} (h : key ∉ l.map (·.1)) : find? key l = none := by
  induction l with
  | nil => rfl
  | cons e l ih =>
    obtain ⟨hk, hl⟩ := not_or.mp (mt List.mem_cons.mpr h)
    rw [find?, if_neg (Ne.symm hk), ih hl]

end SortedMap

namespace Json

section
variable {nullable : Bool} {properties : Fields} {v : Json}

/-! The keywords, one by one. -/

@[simp] theorem admitsAll_nil : admitsAll nullable properties [] v = true := rfl

@[simp]
theorem admitsAll_cons (k : String × Json) (rest : Fields) : admitsAll nullable properties (k :: rest) v =
    (admitsKeyword nullable properties k v && admitsAll nullable properties rest v) :=
  rfl

@[simp]
theorem admitsKeyword_type (type : Json) :
    admitsKeyword nullable properties ("type", type) v = (v.hasType type || nullable && v.isNull) :=
  rfl

@[simp]
theorem admitsKeyword_format (format : Json) :
    admitsKeyword nullable properties ("format", format) v = v.hasFormat format :=
  rfl

@[simp]
theorem admitsKeyword_enum (values : Json) :
    admitsKeyword nullable properties ("enum", values) v = (values.items?.getD []).any v.same :=
  rfl

@[simp]
theorem admitsKeyword_required (names : Json) :
    admitsKeyword nullable properties ("required", names) v = v.hasMembers names :=
  rfl

@[simp]
theorem admitsKeyword_items (schema : Json) :
    admitsKeyword nullable properties ("items", schema) v = (v.items?.getD []).all fun x => admits schema x :=
  rfl

@[simp]
theorem admitsKeyword_properties (schemas : Fields) :
    admitsKeyword nullable properties ("properties", .object schemas) v = admitsMembers schemas (v.fields?.getD []) :=
  rfl

@[simp]
theorem admitsKeyword_additionalProperties (schema : Json) :
    admitsKeyword nullable properties ("additionalProperties", schema) v =
      (Fields.additional properties v).all fun x => admits schema x :=
  rfl

@[simp]
theorem admitsKeyword_anyOf (schemas : List Json) :
    admitsKeyword nullable properties ("anyOf", .array schemas) v = admitsAny schemas v :=
  rfl

theorem admits_object (keywords : Fields) :
    admits (.object keywords) v = admitsAll keywords.nullable keywords.properties keywords v :=
  rfl

theorem admitsMembers_iff {schemas o : Fields} :
    admitsMembers schemas o = true ↔ ∀ m ∈ schemas, ∀ x ∈ o.values m.1, admits m.2 x = true := by
  induction schemas with
  | nil => exact ⟨fun _ => List.forall_mem_nil _, fun _ => rfl⟩
  | cons m schemas ih =>
    rw [List.forall_mem_cons, ← ih, ← List.all_eq_true]
    exact Bool.and_eq_true_iff

theorem admitsAny_iff {schemas : List Json} : admitsAny schemas v = true ↔ ∃ s ∈ schemas, admits s v = true := by
  induction schemas with
  | nil => exact ⟨fun h => (Bool.false_ne_true h).elim, fun ⟨_, hs, _⟩ => absurd hs List.not_mem_nil⟩
  | cons s schemas ih =>
    simp only [List.mem_cons, exists_eq_or_imp, ← ih]
    exact Bool.or_eq_true_iff

/-! Their order does not matter. -/

theorem admitsAll_append (l l' : Fields) : admitsAll nullable properties (l ++ l') v =
    (admitsAll nullable properties l v && admitsAll nullable properties l' v) := by
  induction l with
  | nil => rw [List.nil_append, admitsAll_nil, Bool.true_and]
  | cons k l ih => rw [List.cons_append, admitsAll_cons, ih, admitsAll_cons, Bool.and_assoc]

theorem admitsAll_perm {l l' : Fields} (h : l.Perm l') :
    admitsAll nullable properties l v = admitsAll nullable properties l' v := by
  induction h with
  | nil => rfl
  | cons k _ ih => rw [admitsAll_cons, ih, ← admitsAll_cons]
  | swap k k' l => simp only [admitsAll_cons, Bool.and_left_comm]
  | trans _ _ ih ih' => exact ih.trans ih'

end

end Json

/-! ## Schemas -/

open Json

namespace Schema

def noteNames : List String := ["title", "description", "default", "nullable"]

namespace Notes

variable (n : Notes) {v : Json}

/-- Title, description and default restrict nothing, and `nullable` only allows. -/
theorem admitsAll_keywords (nullable : Bool) (properties : Fields) :
    admitsAll nullable properties n.keywords v = true := by
  obtain ⟨title, description, default, nullable'⟩ := n
  cases title <;> cases description <;> cases default <;> cases nullable' <;> rfl

theorem names_keywords : (n.keywords.map (·.1)).Sublist noteNames := by
  have hmember {α : Type} (key : String) (write : α → Json) (a : Option α) :
      ((member key write a).map (·.1)).Sublist [key] := by
    cases a <;> simp [member]
  have hnullable : ((if n.nullable then [("nullable", Json.bool true)] else []).map (·.1)).Sublist ["nullable"] := by
    split <;> simp
  simp only [keywords, List.map_append]
  exact (((hmember ..).append (hmember ..)).append (hmember ..)).append hnullable

theorem find?_keywords_append {key : String} (h : key ∉ noteNames) (l : Fields) :
    SortedMap.find? key (n.keywords ++ l) = SortedMap.find? key l := by
  simp only [noteNames, List.mem_cons, List.not_mem_nil, or_false, not_or] at h
  obtain ⟨title, description, default, nullable⟩ := n
  cases title <;> cases description <;> cases default <;> cases nullable <;>
    simp [keywords, member, SortedMap.find?, Ne.symm h.1, Ne.symm h.2.1, Ne.symm h.2.2.1, Ne.symm h.2.2.2]

theorem nullable_keywords_append {l : Fields} (h : SortedMap.find? "nullable" l = none) :
    Fields.nullable (n.keywords ++ l) = n.nullable := by
  obtain ⟨title, description, default, nullable⟩ := n
  cases title <;> cases description <;> cases default <;> cases nullable <;>
    simp [keywords, Fields.nullable, Fields.find?, member, SortedMap.find?, h, bool?]

end Notes

variable {n : Notes} {v : Json}

/-- A schema admits what its keywords admit, in whatever order they are written. -/
theorem admits_ofKeywords {keywords : Fields} (hnames : (noteNames ++ keywords.map (·.1)).Nodup) :
    admits (ofKeywords n keywords) v = admitsAll n.nullable keywords.properties keywords v := by
  -- No keyword has the name of a note, so that making a map of both only changes their order.
  have hnodup : ((n.keywords ++ keywords).map (·.1)).Nodup := by
    rw [List.map_append]
    exact hnames.sublist (n.names_keywords.append_right _)
  have hperm := SortedMap.ofList_perm hnodup
  have hfind (key : String) : SortedMap.find? key (SortedMap.ofList (n.keywords ++ keywords)).entries =
      SortedMap.find? key (n.keywords ++ keywords) := (SortedMap.find?_perm hperm.symm hnodup key).symm
  have hnone : SortedMap.find? "nullable" keywords = none := SortedMap.find?_eq_none fun hmem =>
    (List.nodup_append.mp hnames).2.2 _ (by decide) _ hmem rfl
  have hnullable : Fields.nullable (SortedMap.ofList (n.keywords ++ keywords)).entries = n.nullable := by
    rw [← n.nullable_keywords_append hnone, Fields.nullable, Fields.nullable, Fields.find?, Fields.find?, hfind]
  have hproperties : Fields.properties (SortedMap.ofList (n.keywords ++ keywords)).entries = keywords.properties := by
    rw [Fields.properties, Fields.properties, Fields.find?, Fields.find?, hfind, n.find?_keywords_append (by decide)]
  have hentries : ofKeywords n keywords = .object (SortedMap.ofList (n.keywords ++ keywords)).entries :=
    congrArg Json.object (List.map_id _)
  rw [hentries, admits_object, hnullable, hproperties, admitsAll_perm hperm, admitsAll_append, n.admitsAll_keywords,
    Bool.true_and]

/-! ## What schemas admit -/

theorem isNull_iff : v.isNull = true ↔ v = .null := by
  cases v <;> simp [isNull]

theorem admits_text : admits (text n).toJson v = true ↔ (∃ s, v = .string s) ∨ n.nullable = true ∧ v = .null := by
  rw [toJson, typed, admits_ofKeywords (by simp [noteNames])]
  cases v <;> simp [isNull, text?]

theorem admits_flag : admits (flag n).toJson v = true ↔ (∃ b, v = .bool b) ∨ n.nullable = true ∧ v = .null := by
  rw [toJson, typed, admits_ofKeywords (by simp [noteNames])]
  cases v <;> simp [isNull, bool?]

theorem admits_choice {names : List String} : admits (choice n names).toJson v = true ↔ ∃ s ∈ names, v = .string s := by
  rw [toJson, typed, admits_ofKeywords (by simp [noteNames])]
  cases v <;> simp [isNull, text?, ofList, items?, same]

/-- An integer of a format, however it is written. -/
theorem admits_integer {format : String} (hnull : hasFormat .null (.string format) = true) :
    admits (typed n "integer" [("format", .string format)]) v = true ↔
      (∃ i, v.whole? = some i ∧ v.hasFormat (.string format) = true) ∨ n.nullable = true ∧ v = .null := by
  rw [typed, admits_ofKeywords (by simp [noteNames])]
  simp only [admitsAll_cons, admitsAll_nil, admitsKeyword_type, admitsKeyword_format, hasType_integer, Bool.and_eq_true,
    Bool.or_eq_true, isNull_iff, Bool.and_true, Option.isSome_iff_exists, exists_and_right]
  refine ⟨fun ⟨h, hformat⟩ => h.imp_left fun h => ⟨h, hformat⟩, fun h => ?_⟩
  rcases h with ⟨h, hformat⟩ | ⟨hn, rfl⟩
  · exact ⟨.inl h, hformat⟩
  · exact ⟨.inr ⟨hn, rfl⟩, hnull⟩

theorem admits_int32 : admits (int32 n).toJson v = true ↔
    (∃ i, v.whole? = some i ∧ Int32.minValue.toInt ≤ i ∧ i ≤ Int32.maxValue.toInt) ∨ n.nullable = true ∧ v = .null := by
  rw [toJson, admits_integer rfl]
  refine or_congr_left (exists_congr fun i => and_congr_right fun h => ?_)
  simp only [hasFormat_int32, h, Option.all_some, Bool.and_eq_true, decide_eq_true_eq]

theorem admits_int64 : admits (int64 n).toJson v = true ↔
    (∃ i, v.whole? = some i ∧ Int64.minValue.toInt ≤ i ∧ i ≤ Int64.maxValue.toInt) ∨ n.nullable = true ∧ v = .null := by
  rw [toJson, admits_integer rfl]
  refine or_congr_left (exists_congr fun i => and_congr_right fun h => ?_)
  simp only [hasFormat_int64, h, Option.all_some, Bool.and_eq_true, decide_eq_true_eq]

theorem admits_list {items : Schema} : admits (list n items).toJson v = true ↔
    (∃ l, v = .array l ∧ ∀ x ∈ l, admits items.toJson x = true) ∨ n.nullable = true ∧ v = .null := by
  rw [toJson, typed, admits_ofKeywords (by simp [noteNames])]
  cases v <;> simp [isNull, items?]

theorem admits_map {values : Schema} : admits (map n values).toJson v = true ↔
    (∃ o : Fields, v = .object o ∧ (o.map (·.1)).Nodup ∧ ∀ m ∈ o, admits values.toJson m.2 = true) ∨
      n.nullable = true ∧ v = .null := by
  rw [toJson, typed, admits_ofKeywords (by simp [noteNames])]
  show admitsAll n.nullable [] _ v = true ↔ _
  cases v <;> simp [isNull, fields?, Fields.additional, Fields.find?, SortedMap.find?]

theorem fieldsToJson_eq_map (fields : List (String × Schema)) :
    fieldsToJson fields = fields.map fun f => (f.1, f.2.toJson) := by
  induction fields with
  | nil => rfl
  | cons f fields ih => rw [fieldsToJson, ih, List.map_cons]

/-- The members of a record are checked by its fields, in whatever order they are written. -/
theorem admitsMembers_fields {fields : List (String × Schema)} (hnames : (fields.map (·.1)).Nodup) {o : Fields} :
    admitsMembers (SortedMap.ofList (fieldsToJson fields)).entries o = true ↔
      ∀ f ∈ fields, ∀ x ∈ o.values f.1, admits f.2.toJson x = true := by
  have hmap := fieldsToJson_eq_map fields
  have hperm : (SortedMap.ofList (fieldsToJson fields)).entries.Perm (fieldsToJson fields) :=
    SortedMap.ofList_perm (by rwa [hmap, List.map_map])
  rw [admitsMembers_iff]
  refine (forall_congr' fun m => imp_congr_left hperm.mem_iff).trans ?_
  rw [hmap, List.forall_mem_map]

theorem admitsAll_required {nullable : Bool} {properties : Fields} (required : List String) (o : Fields) :
    admitsAll nullable properties (requiredNames required) (.object o) = true ↔
      ∀ name ∈ required, o.values name ≠ [] := by
  cases required <;> simp [requiredNames, admitsAll, hasMembers, fields?, ofList, items?, text?]

theorem admits_record {fields : List (String × Schema)} {required : List String} (hnames : (fields.map (·.1)).Nodup) :
    admits (record n fields required).toJson v = true ↔
      (∃ o : Fields, v = .object o ∧ (o.map (·.1)).Nodup ∧
        (∀ f ∈ fields, ∀ x ∈ o.values f.1, admits f.2.toJson x = true) ∧ ∀ name ∈ required, o.values name ≠ []) ∨
      n.nullable = true ∧ v = .null := by
  have hproperties : Json.ofMap id (.ofList (fieldsToJson fields)) =
      .object (SortedMap.ofList (fieldsToJson fields)).entries := congrArg Json.object (List.map_id _)
  have hkeywords : (noteNames ++ ((("type", Json.string "object") ::
      ("properties", Json.ofMap id (.ofList (fieldsToJson fields))) :: requiredNames required).map (·.1))).Nodup := by
    cases required <;> simp [noteNames, requiredNames]
  rw [toJson, typed, admits_ofKeywords hkeywords, hproperties]
  simp only [admitsAll_cons, admitsKeyword_type, admitsKeyword_properties, Bool.and_eq_true, Bool.or_eq_true,
    isNull_iff]
  constructor
  · rintro ⟨htype, hmembers, hrequired⟩
    refine htype.imp_left fun htype => ?_
    obtain ⟨o, rfl, hnodup⟩ : ∃ o : Fields, v = .object o ∧ (o.map (·.1)).Nodup := by
      cases v <;> simp_all [fields?]
    exact ⟨o, rfl, hnodup, (admitsMembers_fields hnames).mp hmembers, (admitsAll_required required o).mp hrequired⟩
  · rintro (⟨o, rfl, hnodup, hmembers, hrequired⟩ | ⟨hn, rfl⟩)
    · refine ⟨.inl ?_, (admitsMembers_fields hnames).mpr hmembers, (admitsAll_required required o).mpr hrequired⟩
      simpa [fields?] using hnodup
    · have hmembers := (admitsMembers_fields hnames (o := [])).mpr fun _ _ _ hx => absurd hx List.not_mem_nil
      refine ⟨.inr ⟨hn, rfl⟩, hmembers, ?_⟩
      cases required <;> simp [requiredNames, admitsAll, hasMembers, fields?]

theorem allToJson_eq_map (alternatives : List Schema) : allToJson alternatives = alternatives.map toJson := by
  induction alternatives with
  | nil => rfl
  | cons s alternatives ih => rw [allToJson, ih, List.map_cons]

theorem admits_anyOf {alternatives : List Schema} : admits (anyOf n alternatives).toJson v = true ↔
    ∃ s ∈ alternatives, admits s.toJson v = true := by
  rw [toJson, admits_ofKeywords (by simp [noteNames])]
  simp only [admitsAll_cons, admitsAll_nil, admitsKeyword_anyOf, Bool.and_true, admitsAny_iff, allToJson_eq_map,
    List.mem_map]
  exact ⟨fun ⟨_, ⟨s, hs, h⟩, hv⟩ => ⟨s, hs, h ▸ hv⟩, fun ⟨s, hs, hv⟩ => ⟨_, ⟨s, hs, rfl⟩, hv⟩⟩

theorem admits_onlyNull : admits (onlyNull n).toJson v = true ↔ v = .null := by
  rw [toJson, admits_ofKeywords (by simp [noteNames])]
  cases v <;> simp [items?, same]

end Schema

end ServerOperator
