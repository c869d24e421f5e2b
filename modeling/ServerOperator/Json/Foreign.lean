import ServerOperator.Json.Reader

/-!
# Foreign members

The objects of a cluster have many more members than the operator has a use for. Those that their types name are
carried along as they were given, whatever they hold, so that they are written back and objects that differ there
differ. Members of other names are not kept.
-/

namespace ServerOperator.Json

variable {names : List String}

/-- The last value under a name, unless that is `null`. -/
def Fields.given? (o : Fields) (key : String) : Option Json :=
  (o.values key).getLast?.filter fun v => v ≠ .null

/-- Members under some of the names, none of them `null`. -/
structure Foreign (names : List String) where
  members : SortedMap Json
  known : ∀ key v, members.get? key = some v → key ∈ names ∧ v ≠ .null

namespace Foreign

@[ext] theorem ext {f g : Foreign names} (h : f.members = g.members) : f = g := by
  cases f; cases g; cases h; rfl

instance : DecidableEq (Foreign names) := fun f g =>
  if h : f.members = g.members then isTrue (ext h) else isFalse fun e => h (e ▸ rfl)

instance : EmptyCollection (Foreign names) := ⟨∅, nofun⟩
instance : Inhabited (Foreign names) := ⟨∅⟩

/-! ## Reading and writing -/

/-- What is given under each of the names. -/
def select (o : Fields) : List String → SortedMap Json
  | [] => ∅
  | name :: names =>
    match o.given? name with
    | some v => (select o names).insert name v
    | none => select o names

theorem get?_select (o : Fields) (names : List String) (key : String) :
    (select o names).get? key = if key ∈ names then o.given? key else none := by
  induction names with
  | nil => rfl
  | cons name names ih =>
    by_cases h : name = key
    · subst h
      rw [select]
      cases hgiven : o.given? name <;> simp [ih, hgiven]
    · rw [select]
      cases o.given? name <;> simp [ih, h, Ne.symm h]

theorem known_select (o : Fields) (names : List String) (key : String) (v : Json)
    (h : (select o names).get? key = some v) : key ∈ names ∧ v ≠ .null := by
  rw [get?_select] at h
  split at h
  · next hkey => exact ⟨hkey, of_decide_eq_true (Option.filter_eq_some_iff.mp h).2⟩
  · cases h

def ofFields (o : Fields) : Foreign names := ⟨select o names, known_select o names⟩

def toFields (f : Foreign names) : Fields := f.members.entries

end Foreign

end ServerOperator.Json
