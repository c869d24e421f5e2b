import Mathlib.Data.List.Forall2
import ServerOperator.Proofs.StatusPatch

/-!
# Rewriting

What becomes of a value that is read and written again. Texts, flags and numbers stay as they are and a map is put in
order; of a record the fields are kept by their rules, and all else that was given is lost. Which of the allowed forms
a record is given in makes no difference to what is read.
-/

namespace ServerOperator

namespace Json

/-! ## How values are rewritten -/

abbrev Rewriting := Json → Json → Prop

def ListOf (R : Rewriting) : Rewriting := fun v w =>
  ∃ l l', v = .array l ∧ w = .array l' ∧ List.Forall₂ R l l'

/-- The same entries in the order of their names, of those with one name the last. -/
def SameEntries : Rewriting := fun v w =>
  ∃ o o' : Fields, v = .object o ∧ w = .object o' ∧ KeysIncrease o' ∧ ∀ key, o'.find? key = (o.values key).getLast?

inductive Rule where
  | required
  /-- Written as a default where it is missing. -/
  | defaulted (default : Json)
  /-- Left out where it is missing or empty. -/
  | unlessEmpty
  /-- Left out where it is missing or `null`. -/
  | optional
  /-- Written as `null` where it is missing. -/
  | nullable

namespace Rule

def Counts : Rule → Json → Prop
  | required, _ | defaulted _, _ => True
  | unlessEmpty, v => v ≠ .array [] ∧ v ≠ .object []
  | optional, v | nullable, v => v ≠ .null

def fallback : Rule → Option (Option Json)
  | required => none
  | defaulted default => some (some default)
  | unlessEmpty | optional => some none
  | nullable => some (some .null)

inductive Rewrites (R : Rewriting) (rule : Rule) : (given written : Option Json) → Prop
  | kept {v w : Json} (hv : rule.Counts v) (h : R v w) : rule.Rewrites R (some v) (some w)
  | unset {given written : Option Json} (hv : ∀ v ∈ given, ¬ rule.Counts v) (h : rule.fallback = some written) :
    rule.Rewrites R given written

end Rule

structure Field where
  name : String
  rule : Rule
  rewriting : Rewriting := Eq

/-- The members that are given of a record, by their names or by their positions. -/
inductive Given (names : List String) : Json → Fields → Prop
  | named {o : Fields} (h : ∀ name ∈ names, (o.values name).length ≤ 1) : Given names (.object o) o
  | positional {items : List Json} (h : items.length ≤ names.length) : Given names (.array items) (names.zip items)

def Record (fields : List Field) : Rewriting := fun v w =>
  ∃ o o' : Fields, Given (fields.map (·.name)) v o ∧ w = .object o' ∧
    (o'.map (·.1)).Sublist (fields.map (·.name)) ∧
    ∀ f ∈ fields, f.rule.Rewrites f.rewriting (o.find? f.name) (o'.find? f.name)

/-! ## What readers and writers make of a value -/

def Rewritten {α : Type} (read : Json → Except Mismatch α) (write : α → Json) (R : Rewriting) : Prop :=
  ∀ v a, read v = .ok a → R v (write a)

variable {α : Type} {read : Json → Except Mismatch α} {write : α → Json} {R : Rewriting}

theorem rewritten_asText : Rewritten asText .string Eq := by
  intro v s h
  cases v <;> cases h
  rfl

theorem rewritten_asBool : Rewritten asBool .bool Eq := by
  intro v b h
  cases v <;> cases h
  rfl

theorem rewritten_asInteger {β : Type} {expected : String} {least most : Int} {ofInt : Int → β} {toInt : β → Int}
    (hinverse : ∀ n, least ≤ n → n ≤ most → toInt (ofInt n) = n) :
    Rewritten (asInteger expected fun v => do
      let n ← v.int?
      if least ≤ n && n ≤ most then some (ofInt n) else none) (fun b => .int (toInt b)) Eq := by
  intro v b h
  unfold asInteger at h
  split at h
  · next b' hread =>
    cases h
    obtain ⟨n, hn, hrange⟩ := Option.bind_eq_some_iff.mp hread
    have hv : v = .int n := by
      cases v <;> cases hn
      rfl
    split at hrange
    · next hbounds =>
      cases hrange
      simp only [Bool.and_eq_true, decide_eq_true_eq] at hbounds
      exact hv.trans (congrArg Json.int (hinverse n hbounds.1 hbounds.2).symm)
    · cases hrange
  · cases h

theorem rewritten_asInt32 : Rewritten asInt32 ofInt32 Eq :=
  rewritten_asInteger fun _ hleast hmost => Int32.toInt_ofInt_of_le hleast (Int.lt_of_le_of_lt hmost (by decide))

theorem rewritten_asInt64 : Rewritten asInt64 ofInt64 Eq :=
  rewritten_asInteger fun _ hleast hmost => Int64.toInt_ofInt_of_le hleast (Int.lt_of_le_of_lt hmost (by decide))

theorem forall₂_of_mapM {ε β γ : Type} {f : β → Except ε γ} {l : List β} {l' : List γ} (h : l.mapM f = .ok l') :
    List.Forall₂ (fun x y => f x = .ok y) l l' := by
  induction l generalizing l' with
  | nil => cases h; exact .nil
  | cons x l ih =>
    rw [List.mapM_cons] at h
    obtain ⟨y, hy, h⟩ := Except.bind_eq_ok h
    obtain ⟨rest, hrest, h⟩ := Except.bind_eq_ok h
    cases h
    exact .cons hy (ih hrest)

theorem rewritten_asList (hR : Rewritten read write R) : Rewritten (asList read) (ofList write) (ListOf R) := by
  intro v l h
  obtain ⟨items, hitems, h⟩ := Except.bind_eq_ok h
  refine ⟨items, _, ?_, rfl, ?_⟩
  · cases v <;> cases hitems
    rfl
  · rw [List.forall₂_map_right_iff]
    exact (forall₂_of_mapM h).imp fun v a => hR v a

theorem get?_ofList {β : Type} (l : List (String × β)) (key : String) :
    (SortedMap.ofList l).get? key = ((l.filter (·.1 = key)).map (·.2)).getLast? := by
  -- A later entry stands in place of an earlier one, and of what the map has at first.
  have hfold (m : SortedMap β) : (l.foldl (fun m e => m.insert e.1 e.2) m).get? key =
      ((l.filter (·.1 = key)).map (·.2)).getLast?.or (m.get? key) := by
    induction l generalizing m with
    | nil => rfl
    | cons e l ih =>
      rw [List.foldl_cons, ih, SortedMap.get?_insert]
      by_cases he : e.1 = key
      · simp [he, List.getLast?_cons]
      · simp [he]
  rw [SortedMap.ofList, hfold, SortedMap.get?_empty, Option.or_none]

theorem find?_map {β γ : Type} (f : β → γ) (l : List (String × β)) (key : String) :
    SortedMap.find? key (l.map fun e => (e.1, f e.2)) = (SortedMap.find? key l).map f := by
  induction l with
  | nil => rfl
  | cons e l ih =>
    rw [List.map_cons, SortedMap.find?, SortedMap.find?, ih]
    split <;> rfl

theorem rewritten_asMap : Rewritten (asMap asText) (ofMap .string) SameEntries := by
  intro v m h
  obtain ⟨o, ho, h⟩ := Except.bind_eq_ok h
  obtain ⟨l, hl, h⟩ := Except.bind_eq_ok h
  cases h
  have hentries : o = l.map fun e => (e.1, .string e.2) := by
    rw [← List.forall₂_eq_eq_eq, List.forall₂_map_right_iff]
    refine (forall₂_of_mapM hl).imp fun m e he => ?_
    obtain ⟨s, hs, he⟩ := Except.bind_eq_ok he
    cases he
    exact Prod.ext rfl (rewritten_asText _ _ hs)
  refine ⟨o, _, asFields_ok ho, rfl, SortedMap.keysIncrease_map _ (SortedMap.ofList l).increasing, fun key => ?_⟩
  rw [Fields.find?, find?_map, ← SortedMap.get?, get?_ofList, hentries, Fields.values, List.filter_map, List.map_map,
    ← List.getLast?_map, List.map_map]
  rfl

theorem counts_asList {v : Json} {l : List α} (h : asList read v = .ok l) :
    Rule.unlessEmpty.Counts v ↔ l.isEmpty = false := by
  obtain ⟨items, hitems, h⟩ := Except.bind_eq_ok h
  cases v <;> cases hitems
  cases forall₂_of_mapM h <;> simp [Rule.Counts]

theorem counts_asMap {v : Json} {m : SortedMap String} (h : asMap asText v = .ok m) :
    Rule.unlessEmpty.Counts v ↔ m.isEmpty = false := by
  obtain ⟨o, ho, h⟩ := Except.bind_eq_ok h
  obtain ⟨l, hl, h⟩ := Except.bind_eq_ok h
  cases h
  rw [asFields_ok ho]
  cases forall₂_of_mapM hl with
  | nil => simp [Rule.Counts]; rfl
  | @cons m e o l =>
    have hlast : (SortedMap.ofList (e :: l)).get? e.1 ≠ none := by simp [get?_ofList]
    have hne : (SortedMap.ofList (e :: l)).isEmpty = false := by
      rw [Bool.eq_false_iff]
      intro hempty
      rw [SortedMap.eq_empty_of_isEmpty hempty] at hlast
      exact hlast rfl
    simp [Rule.Counts, hne]

/-! ## What becomes of a member -/

section
variable {o o' : Fields} {key : String}

theorem member?_cases (hone : (o.values key).length ≤ 1) {a : Option α} (h : o.member? key read = .ok a) :
    o.find? key = none ∧ a = none ∨ ∃ v b, o.find? key = some v ∧ read v = .ok b ∧ a = some b := by
  rw [Fields.find?_eq_head?]
  unfold Fields.member? at h
  rcases Fields.values_cases hone with hvalues | ⟨v, hvalues⟩
  · rw [hvalues] at h ⊢
    cases h
    exact .inl ⟨rfl, rfl⟩
  · rw [hvalues, List.foldlM_cons] at h
    obtain ⟨b?, hb?, h⟩ := Except.bind_eq_ok h
    cases h
    obtain ⟨b, hread, rfl⟩ := Except.map_eq_ok hb?
    rw [hvalues]
    exact .inr ⟨v, b, rfl, hread, rfl⟩

theorem optional_cases (hone : (o.values key).length ≤ 1) {a : Option α} (h : o.optional key read = .ok a) :
    (∀ v ∈ o.find? key, v = .null) ∧ a = none ∨
      ∃ v b, o.find? key = some v ∧ v ≠ .null ∧ read v = .ok b ∧ a = some b := by
  obtain ⟨a?, hmember, rfl⟩ := Except.map_eq_ok h
  rcases member?_cases hone hmember with ⟨hnone, rfl⟩ | ⟨v, b?, hv, hread, rfl⟩
  · exact .inl ⟨by simp [hnone], rfl⟩
  by_cases hnull : v = .null
  · subst hnull
    cases hread
    exact .inl ⟨by simp [hv], rfl⟩
  · rw [Fields.asOption_of_ne hnull] at hread
    obtain ⟨b, hb, rfl⟩ := Except.map_eq_ok hread
    exact .inr ⟨v, b, hv, hnull, hb, rfl⟩

theorem defaulted_cases (hone : (o.values key).length ≤ 1) {a default : α} (h : o.defaulted key read default = .ok a) :
    o.find? key = none ∧ a = default ∨ ∃ v, o.find? key = some v ∧ read v = .ok a := by
  obtain ⟨a?, hmember, rfl⟩ := Except.map_eq_ok h
  rcases member?_cases hone hmember with ⟨hnone, rfl⟩ | ⟨v, b, hv, hread, rfl⟩
  · exact .inl ⟨hnone, rfl⟩
  · exact .inr ⟨v, hv, hread⟩

theorem find?_of_values {w : Option Json} (h : o'.values key = w.toList) : o'.find? key = w := by
  rw [Fields.find?_eq_head?, h]
  cases w <;> rfl

variable (hR : Rewritten read write R) (hone : (o.values key).length ≤ 1)
include hR hone

theorem rewrites_required {a? : Option α} {a : α} (h : o.member? key read = .ok a?) (ha : present key a? = .ok a)
    (hw : o'.values key = [write a]) : Rule.required.Rewrites R (o.find? key) (o'.find? key) := by
  rw [find?_of_values (w := some (write a)) hw]
  rcases member?_cases hone h with ⟨_, rfl⟩ | ⟨v, b, hv, hread, rfl⟩
  · cases ha
  · cases ha
    rw [hv]
    exact .kept trivial (hR v _ hread)

theorem rewrites_defaulted {a default : α} (h : o.defaulted key read default = .ok a)
    (hw : o'.values key = [write a]) :
    (Rule.defaulted (write default)).Rewrites R (o.find? key) (o'.find? key) := by
  rw [find?_of_values (w := some (write a)) hw]
  rcases defaulted_cases hone h with ⟨hnone, rfl⟩ | ⟨v, hv, hread⟩
  · exact .unset (by simp [hnone]) rfl
  · rw [hv]
    exact .kept trivial (hR v a hread)

theorem rewrites_unlessEmpty {a default : α} {isEmpty : α → Bool}
    (hcounts : ∀ v a, read v = .ok a → (Rule.unlessEmpty.Counts v ↔ isEmpty a = false))
    (hdefault : isEmpty default = true) (h : o.defaulted key read default = .ok a)
    (hw : o'.values key = (if isEmpty a then none else some (write a)).toList) :
    Rule.unlessEmpty.Rewrites R (o.find? key) (o'.find? key) := by
  rw [find?_of_values hw]
  rcases defaulted_cases hone h with ⟨hnone, rfl⟩ | ⟨v, hv, hread⟩
  · rw [hdefault, if_pos rfl]
    exact .unset (by simp [hnone]) rfl
  · rw [hv]
    cases hempty : isEmpty a with
    | true =>
      refine .unset (fun w hw => ?_) rfl
      cases hw
      rw [hcounts v a hread, hempty]
      exact nofun
    | false => exact .kept ((hcounts v a hread).mpr hempty) (hR v a hread)

theorem rewrites_optional {a : Option α} (h : o.optional key read = .ok a)
    (hw : o'.values key = (a.map write).toList) : Rule.optional.Rewrites R (o.find? key) (o'.find? key) := by
  rw [find?_of_values hw]
  rcases optional_cases hone h with ⟨hnull, rfl⟩ | ⟨v, b, hv, hnull, hread, rfl⟩
  · exact .unset (fun v hv hcounts => hcounts (hnull v hv)) rfl
  · rw [hv]
    exact .kept hnull (hR v b hread)

theorem rewrites_nullable {a : Option α} (h : o.optional key read = .ok a)
    (hw : o'.values key = [ofOption write a]) : Rule.nullable.Rewrites R (o.find? key) (o'.find? key) := by
  rw [find?_of_values (w := some (ofOption write a)) hw]
  rcases optional_cases hone h with ⟨hnull, rfl⟩ | ⟨v, b, hv, hnull, hread, rfl⟩
  · exact .unset (fun v hv hcounts => hcounts (hnull v hv)) rfl
  · rw [hv]
    exact .kept hnull (hR v b hread)

end

/-! ## What becomes of a record -/

theorem given_of_asRecord {names : List String} {v : Json} {o : Fields} (h : asRecord names v = .ok o) :
    Given names v o := by
  cases v with
  | object fields =>
    obtain ⟨_, hdistinct, h⟩ := Except.bind_eq_ok h
    cases h
    exact .named (Fields.distinct_ok_iff.mp hdistinct)
  | array items =>
    by_cases hlength : items.length ≤ names.length
    · obtain rfl : names.zip items = o := Except.ok.inj ((if_pos hlength).symm.trans h)
      exact .positional hlength
    · exact nomatch (if_neg hlength).symm.trans h
  | _ => cases h

theorem Given.length_values_le {names : List String} (hnames : names.Nodup) {v : Json} {o : Fields}
    (h : Given names v o) : ∀ key ∈ names, (o.values key).length ≤ 1 := by
  cases h with
  | named h => exact h
  | positional h =>
    intro key _
    refine Fields.length_values_le ?_
    rw [List.zip_eq_zip_take_min, List.map_fst_zip (by simp)]
    exact hnames.sublist (List.take_sublist ..)

theorem Record.of_fields {fields : List Field} (hnames : (fields.map (·.name)).Nodup) {v : Json} {o o' : Fields}
    (h : asRecord (fields.map (·.name)) v = .ok o) (hsub : (o'.map (·.1)).Sublist (fields.map (·.name)))
    (hfields : (∀ key ∈ fields.map (·.name), (o.values key).length ≤ 1) →
      ∀ f ∈ fields, f.rule.Rewrites f.rewriting (o.find? f.name) (o'.find? f.name)) :
    Record fields v (.object o') :=
  have hgiven := given_of_asRecord h
  ⟨o, o', hgiven, rfl, hsub, hfields (hgiven.length_values_le hnames)⟩

section
variable {names : List String} {o : Fields}

theorem names_member {β : Type} (key : String) (write : β → Json) (a : Option β) (h : (o.map (·.1)).Sublist names) :
    ((member key write a ++ o).map (·.1)).Sublist (key :: names) := by
  cases a with
  | none => exact h.cons key
  | some a => exact h.cons_cons key

theorem names_memberUnlessEmpty (key : String) (isEmpty : Bool) (v : Json) (h : (o.map (·.1)).Sublist names) :
    ((ServerSpec.memberUnlessEmpty key isEmpty v ++ o).map (·.1)).Sublist (key :: names) := by
  cases isEmpty with
  | true => exact h.cons key
  | false => exact h.cons_cons key

end

/-! ## Forms of a record -/

/-- A member is read the same: it has the same values, or there is none and at most `null` says so. -/
def Rule.Alike (rule : Rule) (vs vs' : List Json) : Prop :=
  vs = vs' ∨ ¬ rule.Counts .null ∧ (vs = [] ∨ vs = [.null]) ∧ (vs' = [] ∨ vs' = [.null])

/-- Records that may differ in their order, in what they have besides the fields, and in how they leave fields unset. -/
def AlikeIn (fields : List Field) (o o' : Fields) : Prop :=
  ∀ f ∈ fields, f.rule.Alike (o.values f.name) (o'.values f.name)

variable {rule : Rule} {o o' : Fields} {key : String}

theorem Rule.Alike.length (h : rule.Alike (o.values key) (o'.values key)) :
    1 < (o.values key).length ↔ 1 < (o'.values key).length := by
  rcases h with h | ⟨_, h | h, h' | h'⟩
  · rw [h]
  -- There is one value at most where a member is not set.
  all_goals simp [h, h']

theorem Rule.Alike.member? (h : rule.Alike (o.values key) (o'.values key)) (hnull : rule.Counts .null) :
    o.member? key read = o'.member? key read := by
  rw [Fields.member?, Fields.member?, h.resolve_right fun h' => h'.1 hnull]

theorem Rule.Alike.optional (h : rule.Alike (o.values key) (o'.values key)) :
    o.optional key read = o'.optional key read := by
  have hunset {o : Fields} (h : o.values key = [] ∨ o.values key = [.null]) : o.optional key read = .ok none := by
    rcases h with h | h
    · rw [Fields.optional, Fields.member?_of_none h]
      rfl
    · rw [Fields.optional, Fields.member?_of_values (a := none) h rfl]
      rfl
  rcases h with h | ⟨_, h, h'⟩
  · rw [Fields.optional, Fields.optional, Fields.member?, Fields.member?, h]
  · rw [hunset h, hunset h']

theorem Rule.Alike.defaulted {default : α} (h : rule.Alike (o.values key) (o'.values key))
    (hnull : rule.Counts .null) :
    o.defaulted key read default = o'.defaulted key read default := by
  rw [Fields.defaulted, Fields.defaulted, h.member? hnull]

theorem AlikeIn.distinct {fields : List Field} (h : AlikeIn fields o o') :
    o.distinct (fields.map (·.name)) = o'.distinct (fields.map (·.name)) := by
  induction fields with
  | nil => rfl
  | cons f fields ih =>
    obtain ⟨hf, hfields⟩ := List.forall_mem_cons.mp h
    simp only [List.map_cons, Fields.distinct, hf.length, ih hfields]

theorem AlikeIn.read_eq {fields : List Field} {k : Fields → Except Mismatch α}
    (hread : ∀ v, read v = asRecord (fields.map (·.name)) v >>= k) (hk : k o = k o') (h : AlikeIn fields o o') :
    read (.object o) = read (.object o') := by
  rw [hread, hread, asRecord, asRecord, h.distinct]
  cases o'.distinct (fields.map (·.name)) with
  | error e => rfl
  | ok u => exact hk

theorem asRecord_array {names : List String} (hnames : names.Nodup) {items : List Json}
    (h : items.length ≤ names.length) : asRecord names (.array items) = asRecord names (.object (names.zip items)) := by
  have hone := (Given.positional h).length_values_le hnames
  rw [asRecord_object hone]
  exact if_pos h

end Json

end ServerOperator
