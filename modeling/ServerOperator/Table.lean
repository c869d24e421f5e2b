/-!
# Tables

Finite maps over any key that can be compared, in the order in which keys were first put in.
-/

namespace ServerOperator

structure Table (κ β : Type) where
  entries : List (κ × β)
  deriving DecidableEq

namespace Table

variable {κ β : Type} [DecidableEq κ]

instance : EmptyCollection (Table κ β) := ⟨⟨[]⟩⟩
instance : Inhabited (Table κ β) := ⟨∅⟩

def find? (key : κ) : List (κ × β) → Option β
  | [] => none
  | (k, v) :: rest => if k = key then some v else find? key rest

def get? (t : Table κ β) (key : κ) : Option β := find? key t.entries

def put (key : κ) (value : β) : List (κ × β) → List (κ × β)
  | [] => [(key, value)]
  | (k, v) :: rest => if k = key then (key, value) :: rest else (k, v) :: put key value rest

def insert (t : Table κ β) (key : κ) (value : β) : Table κ β := ⟨put key value t.entries⟩

def erase (t : Table κ β) (key : κ) : Table κ β := ⟨t.entries.filter (·.1 ≠ key)⟩

/-! ## Laws -/

@[simp] theorem get?_empty (key : κ) : (∅ : Table κ β).get? key = none := rfl

theorem find?_put (key key' : κ) (value : β) (l : List (κ × β)) :
    find? key' (put key value l) = if key = key' then some value else find? key' l := by
  induction l with
  | nil => simp [put, find?]
  | cons a l ih =>
    obtain ⟨k, v⟩ := a
    unfold put
    split
    · next h => subst h; by_cases hk : k = key' <;> simp [find?, hk]
    · next h =>
      by_cases hk : k = key'
      · subst hk; simp [find?, Ne.symm h]
      · simp [find?, hk, ih]

@[simp] theorem get?_insert (t : Table κ β) (key key' : κ) (value : β) :
    (t.insert key value).get? key' = if key = key' then some value else t.get? key' :=
  find?_put ..

theorem find?_filter_ne (key key' : κ) (l : List (κ × β)) :
    find? key' (l.filter (·.1 ≠ key)) = if key = key' then none else find? key' l := by
  induction l with
  | nil => simp [find?]
  | cons a l ih =>
    obtain ⟨k, v⟩ := a
    by_cases hk : k = key
    · subst hk
      rw [List.filter_cons_of_neg (by simp), ih]
      by_cases h : k = key' <;> simp [find?, h]
    · rw [List.filter_cons_of_pos (by simpa using hk)]
      by_cases h : k = key'
      · subst h; simp [find?, Ne.symm hk]
      · simp only [find?, h, if_false, ih]

@[simp] theorem get?_erase (t : Table κ β) (key key' : κ) :
    (t.erase key).get? key' = if key = key' then none else t.get? key' :=
  find?_filter_ne ..

end Table

end ServerOperator
