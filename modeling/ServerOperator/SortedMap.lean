/-!
# Sorted maps

Finite maps from text, kept as the list of their entries in strictly increasing key order. Two maps
with the same entries are equal, so labels, annotations and error contexts compare as sets of
entries do. Main statement: a map is determined by its look-up (`SortedMap.ext_get?`).
-/

namespace ServerOperator

/-- Entries whose keys increase strictly, in the order of code points. -/
def KeysIncrease {β : Type} (entries : List (String × β)) : Prop :=
  entries.Pairwise fun a b => a.1 < b.1

structure SortedMap (β : Type) where
  entries : List (String × β)
  increasing : KeysIncrease entries

namespace SortedMap

variable {β γ : Type}

@[ext] theorem ext {m n : SortedMap β} (h : m.entries = n.entries) : m = n := by
  cases m; cases n; cases h; rfl

instance [DecidableEq β] : DecidableEq (SortedMap β) := fun m n =>
  if h : m.entries = n.entries then isTrue (ext h) else isFalse fun e => h (e ▸ rfl)

def empty : SortedMap β := ⟨[], List.Pairwise.nil⟩

instance : EmptyCollection (SortedMap β) := ⟨empty⟩
instance : Inhabited (SortedMap β) := ⟨empty⟩

def isEmpty (m : SortedMap β) : Bool := m.entries.isEmpty

/-! ## Look-up -/

def find? (key : String) : List (String × β) → Option β
  | [] => none
  | (k, v) :: rest => if k = key then some v else find? key rest

def get? (m : SortedMap β) (key : String) : Option β := find? key m.entries

/-! ## Insertion -/

/-- Put an entry in its place, over an older one of the same key. -/
def place (key : String) (value : β) : List (String × β) → List (String × β)
  | [] => [(key, value)]
  | (k, v) :: rest =>
    if key < k then (key, value) :: (k, v) :: rest
    else if key = k then (key, value) :: rest
    else (k, v) :: place key value rest

theorem mem_place {key : String} {value : β} {l : List (String × β)} {e : String × β}
    (h : e ∈ place key value l) : e = (key, value) ∨ e ∈ l := by
  induction l with
  | nil => simpa [place] using h
  | cons a l ih =>
    obtain ⟨k, v⟩ := a
    unfold place at h
    split at h
    · simpa using h
    · split at h
      · rcases List.mem_cons.mp h with h | h
        · exact .inl h
        · exact .inr (List.mem_cons_of_mem _ h)
      · rcases List.mem_cons.mp h with h | h
        · exact .inr (h ▸ List.mem_cons_self ..)
        · exact (ih h).imp_right (List.mem_cons_of_mem _)

theorem keysIncrease_place (key : String) (value : β) {l : List (String × β)} (h : KeysIncrease l) :
    KeysIncrease (place key value l) := by
  induction l with
  | nil => simp [place, KeysIncrease]
  | cons a l ih =>
    obtain ⟨k, v⟩ := a
    obtain ⟨hk, hl⟩ := List.pairwise_cons.mp h
    unfold place
    split
    · next hlt =>
      refine List.pairwise_cons.mpr ⟨fun e he => ?_, h⟩
      rcases List.mem_cons.mp he with rfl | he
      · exact hlt
      · exact String.lt_trans hlt (hk e he)
    · next hge =>
      split
      · next heq => subst heq; exact List.pairwise_cons.mpr ⟨hk, hl⟩
      · next hne =>
        have hkk : k < key := by
          rcases String.le_total key k with h | h
          · exact absurd (String.le_antisymm h (String.not_lt.mp hge)) hne
          · exact String.not_le.mp fun h' => hne (String.le_antisymm h' h)
        refine List.pairwise_cons.mpr ⟨fun e he => ?_, ih hl⟩
        rcases mem_place he with rfl | he
        · exact hkk
        · exact hk e he

def insert (m : SortedMap β) (key : String) (value : β) : SortedMap β :=
  ⟨place key value m.entries, keysIncrease_place key value m.increasing⟩

/-- The map of a list of entries, the later winning among equal keys. -/
def ofList (l : List (String × β)) : SortedMap β :=
  l.foldl (fun m e => m.insert e.1 e.2) ∅

/-- Every entry of `n` over the entries of `m`. -/
def union (m n : SortedMap β) : SortedMap β :=
  n.entries.foldl (fun m e => m.insert e.1 e.2) m

/-! ## Removal -/

def erase (m : SortedMap β) (key : String) : SortedMap β :=
  ⟨m.entries.filter (·.1 ≠ key), m.increasing.filter _⟩

/-! ## Values -/

theorem keysIncrease_map (f : β → γ) {l : List (String × β)} (h : KeysIncrease l) :
    KeysIncrease (l.map fun e => (e.1, f e.2)) :=
  List.pairwise_map.mpr h

def map (f : β → γ) (m : SortedMap β) : SortedMap γ :=
  ⟨m.entries.map fun e => (e.1, f e.2), keysIncrease_map f m.increasing⟩

/-! ## Laws -/

theorem find?_place (key key' : String) (value : β) (l : List (String × β)) :
    find? key' (place key value l) = if key = key' then some value else find? key' l := by
  induction l with
  | nil => simp [place, find?]
  | cons a l ih =>
    obtain ⟨k, v⟩ := a
    unfold place
    split
    · simp [find?]
    · split
      · next h => subst h; by_cases hk : key = key' <;> simp [find?, hk]
      · next h =>
        by_cases hk : k = key'
        · subst hk; simp [find?, h]
        · simp [find?, hk, ih]

@[simp] theorem get?_insert (m : SortedMap β) (key key' : String) (value : β) :
    (m.insert key value).get? key' = if key = key' then some value else m.get? key' :=
  find?_place ..

@[simp] theorem get?_empty (key : String) : (∅ : SortedMap β).get? key = none := rfl

theorem find?_filter_ne (key key' : String) (l : List (String × β)) :
    find? key' (l.filter (·.1 ≠ key)) = if key = key' then none else find? key' l := by
  induction l with
  | nil => simp [find?]
  | cons a l ih =>
    obtain ⟨k, v⟩ := a
    by_cases hk : k = key
    · subst hk; simp only [ne_eq, not_true_eq_false, decide_false, Bool.false_eq_true, not_false_eq_true,
        List.filter_cons_of_neg, ih, find?]
      by_cases h : k = key' <;> simp [h]
    · simp only [ne_eq, hk, not_false_eq_true, decide_true, List.filter_cons_of_pos, find?, ih]
      by_cases h : k = key'
      · subst h; simp [Ne.symm hk]
      · simp [h]

@[simp] theorem get?_erase (m : SortedMap β) (key key' : String) :
    (m.erase key).get? key' = if key = key' then none else m.get? key' :=
  find?_filter_ne ..

theorem find?_eq_none_of_lt {key : String} {l : List (String × β)} (h : ∀ e ∈ l, key < e.1) :
    find? key l = none := by
  induction l with
  | nil => rfl
  | cons a l ih =>
    obtain ⟨k, v⟩ := a
    have hk : k ≠ key := fun e => String.lt_irrefl _ (e ▸ h (k, v) (List.mem_cons_self ..))
    simp only [find?, hk, if_false]
    exact ih fun e he => h e (List.mem_cons_of_mem _ he)

theorem entries_eq_of_find?_eq {l l' : List (String × β)} (h : KeysIncrease l) (h' : KeysIncrease l')
    (e : ∀ key, find? key l = find? key l') : l = l' := by
  induction l generalizing l' with
  | nil =>
    cases l' with
    | nil => rfl
    | cons b l' => simpa [find?] using e b.1
  | cons a l ih =>
    obtain ⟨k, v⟩ := a
    obtain ⟨hk, hl⟩ := List.pairwise_cons.mp h
    cases l' with
    | nil => simpa [find?] using e k
    | cons b l' =>
      obtain ⟨k', v'⟩ := b
      obtain ⟨hk', hl'⟩ := List.pairwise_cons.mp h'
      have key_eq : k = k' := by
        have h1 := e k
        have h2 := e k'
        by_cases hkk : k = k'
        · exact hkk
        · exfalso
          rcases String.le_total k k' with hle | hle
          · have hlt : k < k' := String.not_le.mp fun h => hkk (String.le_antisymm hle h)
            have : find? k l' = none :=
              find?_eq_none_of_lt fun e he => String.lt_trans hlt (hk' e he)
            simp [find?, Ne.symm hkk, this] at h1
          · have hlt : k' < k := String.not_le.mp fun h => hkk (String.le_antisymm h hle)
            have : find? k' l = none :=
              find?_eq_none_of_lt fun e he => String.lt_trans hlt (hk e he)
            simp [find?, hkk, this] at h2
      subst key_eq
      have hv : v = v' := by simpa [find?] using e k
      subst hv
      refine congrArg _ (ih hl hl' fun key => ?_)
      by_cases hkk : k = key
      · subst hkk
        rw [find?_eq_none_of_lt hk, find?_eq_none_of_lt hk']
      · simpa [find?, hkk] using e key

/-- Maps with the same look-up are equal. -/
theorem ext_get? {m n : SortedMap β} (h : ∀ key, m.get? key = n.get? key) : m = n :=
  ext (entries_eq_of_find?_eq m.increasing n.increasing h)

end SortedMap

end ServerOperator
