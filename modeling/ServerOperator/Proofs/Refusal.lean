import ServerOperator.Proofs.Writes

/-!
# Refused calls

A call to the store is refused when the failures of its kind and operation are due, and otherwise does
its work. The failures a store is set to decide nothing else: a call that goes through leaves the same
objects and logs as without them.
-/

namespace ServerOperator.MemoryStore

def Reliable (s : MemoryStore) : Prop :=
  ∀ (k : Kind) (op : Operation), s.failures.get? (k.name, op) = none

def Permits (s : MemoryStore) (k : Kind) (op : Operation) : Prop :=
  s.failures.get? (k.name, op) ≠ some 0

instance (s : MemoryStore) (k : Kind) (op : Operation) : Decidable (s.Permits k op) :=
  inferInstanceAs (Decidable (_ ≠ _))

theorem reliable_clearFailures (s : MemoryStore) : s.clearFailures.Reliable := fun _ _ => rfl

theorem Reliable.permits {s : MemoryStore} (hs : s.Reliable) (k : Kind) (op : Operation) : s.Permits k op := by
  simp [Permits, hs k op]

structure Spent (k : Kind) (op : Operation) (s t : MemoryStore) : Prop where
  alike : Alike t s
  eq_of_reliable : s.Reliable → t = s
  permits : ∀ k' op', (k', op') ≠ (k, op) → (t.Permits k' op' ↔ s.Permits k' op')

theorem Spent.reliable {k : Kind} {op : Operation} {s t : MemoryStore} (h : Spent k op s t) (hs : s.Reliable) :
    t.Reliable := by
  rw [h.eq_of_reliable hs]
  exact hs

/-- A call is refused or let through. -/
theorem permit_cases (s : MemoryStore) (k : Kind) (op : Operation) :
    (¬ s.Permits k op ∧ ∃ f, s.permit k op = .error f) ∨
      (s.Permits k op ∧ ∃ t, Spent k op s t ∧ s.permit k op = .ok t) := by
  unfold permit Permits
  rcases h : s.failures.get? (k.name, op) with _ | _ | n
  · exact .inr ⟨nofun, s, ⟨.refl s, fun _ => rfl, fun _ _ _ => .rfl⟩, rfl⟩
  · exact .inl ⟨fun h => h rfl, _, rfl⟩
  · refine .inr ⟨nofun, { s with failures := s.failures.insert (k.name, op) n },
      ⟨rfl, fun hs => ?_, fun k' op' hne => ?_⟩, rfl⟩
    · rw [hs k op] at h; cases h
    · have hk : (k.name, op) ≠ (k'.name, op') := fun e =>
        hne (Prod.ext (Kind.name_injective (congrArg Prod.fst e)).symm (congrArg Prod.snd e).symm)
      simp only [Permits, Table.get?_insert, if_neg hk]

theorem permit_of_reliable {s : MemoryStore} (hs : s.Reliable) (k : Kind) (op : Operation) :
    s.permit k op = .ok s := by
  unfold permit; rw [hs k op]

/-! ## Each call -/

section
variable (s : MemoryStore)

theorem get_cases (k : Kind) (key : Key) :
    (¬ s.Permits k .get ∧ ∃ f, handler s (.get k key) = (.error f, s)) ∨
      (s.Permits k .get ∧ ∃ t, Spent k .get s t ∧ handler s (.get k key) = (.ok (s.object? k key), t)) := by
  simp only [handler, get]
  rcases permit_cases s k .get with ⟨hp, f, h⟩ | ⟨hp, t, ht, h⟩
  · exact .inl ⟨hp, f, by rw [h]⟩
  · exact .inr ⟨hp, t, ht, by rw [h]; simp only [ht.alike.object?]⟩

/-- An object is created where none is. -/
theorem create_cases (k : Kind) {o : k.Object} {name : String} (hn : (k.metadata o).name = some name)
    {space : String} (hfree : s.object? k ⟨space, name⟩ = none) :
    (¬ s.Permits k .create ∧ ∃ f, handler s (.create k space o) = (.error f, s)) ∨
      (s.Permits k .create ∧ ∃ a t, handler s (.create k space o) = (.ok a, t) ∧
        Alike t (s.written .create k ⟨space, name⟩ (k.inSpace o space))) := by
  rcases permit_cases s k .create with ⟨hp, f, h⟩ | ⟨hp, t, ht, h⟩
  · exact .inl ⟨hp, f, by simp only [handler, create, h]⟩
  · have hfree' : t.nextVersion.object? k ⟨space, name⟩ = none := by
      have : t.nextVersion.object? k ⟨space, name⟩ = t.object? k ⟨space, name⟩ := by cases k <;> rfl
      rw [this, ht.alike.object?, hfree]
    have he : create s k space o =
        (.ok (t.nextVersion.stamp k (k.inSpace o space)), t.written .create k ⟨space, name⟩ (k.inSpace o space)) := by
      simp only [create, h, hn, hfree', Kind.inSpace, written]
    exact .inr ⟨hp, _, _, he, ht.alike.written ..⟩

/-- An object is replaced at the version it was read at. -/
theorem replace_cases (k : Kind) {key : Key} {o live : k.Object} (hlive : s.object? k key = some live)
    (hv : (k.metadata o).resourceVersion = (k.metadata live).resourceVersion) :
    (¬ s.Permits k .replace ∧ ∃ f, handler s (.replace k key o) = (.error f, s)) ∨
      (s.Permits k .replace ∧ ∃ a t, handler s (.replace k key o) = (.ok a, t) ∧
        Alike t (s.written .replace k key (retain k live o))) := by
  rcases permit_cases s k .replace with ⟨hp, f, h⟩ | ⟨hp, t, ht, h⟩
  · exact .inl ⟨hp, f, by simp only [handler, replace, h]⟩
  · have he : replace s k key o =
        (.ok (t.nextVersion.stamp k (retain k live o)), t.written .replace k key (retain k live o)) := by
      simp only [replace, h, ht.alike.object?, hlive, hv, if_true]; rfl
    exact .inr ⟨hp, _, _, he, ht.alike.written ..⟩

theorem patchStatus_cases {key : Key} {live : Server} (hlive : s.object? .server key = some live)
    (status : ServerStatus) :
    (¬ s.Permits .server .patchStatus ∧ ∃ f, handler s (.patchStatus key status) = (.error f, s)) ∨
      (s.Permits .server .patchStatus ∧ ∃ t, handler s (.patchStatus key status) = (.ok (), t) ∧
        Alike t (s.patched key live status)) := by
  rcases permit_cases s .server .patchStatus with ⟨hp, f, h⟩ | ⟨hp, t, ht, h⟩
  · exact .inl ⟨hp, f, by simp only [handler, patchStatus, h]⟩
  · have he : patchStatus s key status = (.ok (), t.patched key live status) := by
      simp only [patchStatus, h, ht.alike.object?, hlive]; rfl
    exact .inr ⟨hp, _, he, ht.alike.patched ..⟩

end

/-! ## Reliable stores -/

theorem failures_handler {s : MemoryStore} (hs : s.Reliable) (c : Call) : (handler s c).2.failures = s.failures := by
  cases c with
  | get k key => simp only [handler, get, permit_of_reliable hs]
  | create k space o =>
    simp only [handler, create, permit_of_reliable hs]
    split
    · rfl
    · split
      · rfl
      · exact written_failures ..
  | replace k key o =>
    simp only [handler, replace, permit_of_reliable hs]
    split
    · rfl
    · split
      · exact written_failures ..
      · rfl
  | patchStatus key status =>
    simp only [handler, patchStatus, permit_of_reliable hs]
    split <;> rfl

/-- A store that refuses nothing goes on so, whatever is run on it. -/
theorem Reliable.run {α : Type} {s : MemoryStore} (hs : s.Reliable) (p : Program α) :
    (p.run handler s).state.Reliable := by
  induction p generalizing s with
  | done a => exact hs
  | call c next ih => exact ih _ fun k op =>
      (congrArg (Table.get? · (k.name, op)) (failures_handler hs c)).trans (hs k op)
  | count c next ih => exact ih hs

/-! ## Looking only -/

/-- The value of a program that only reads a store where nothing is refused. -/
def look {α : Type} (s : MemoryStore) : Program α → Option α
  | .done a => some a
  | .call (.get k key) next => s.look (next (.ok (s.object? k key)))
  | .call _ _ => none
  | .count _ next => s.look next

section
variable {α β : Type} {s : MemoryStore}

theorem look_bind (p : Program α) (f : α → Program β) :
    s.look (p >>= f) = (s.look p).bind fun a => s.look (f a) := by
  show s.look (p.bind f) = _
  induction p with
  | done a => rfl
  | call c next ih =>
    cases c with
    | get k key => exact ih _
    | create | replace | patchStatus => rfl
  | count c next ih => exact ih

theorem look_attempt (x : Attempt α) (f : α → Attempt β) : s.look (x >>= f).run = (s.look x.run).bind fun
    | .ok a => s.look (f a).run
    | .error e => some (.error e) := by
  rw [ExceptT.run_bind, look_bind]
  refine congrArg (Option.bind _) (funext fun r => ?_)
  cases r <;> rfl

theorem look_lift (p : Program α) : s.look (monadLift p : Attempt α).run = (s.look p).map .ok := by
  show s.look (p >>= fun a => Program.done (Except.ok a : Except OperatorError α)) = _
  rw [look_bind, Option.map_eq_bind]
  rfl

theorem look_get (k : Kind) (key : Key) (error : StoreFailure → OperatorError) :
    s.look (Attempt.call (.get k key) error).run = some (.ok (s.object? k key)) := rfl

/-- A program that gets by with looking has that value, and leaves the store as it was. -/
theorem run_of_look (hs : s.Reliable) {p : Program α} {a : α} (h : s.look p = some a) :
    (p.run handler s).value = a ∧ (p.run handler s).state = s ∧ ∀ x ∈ p.calls handler s, x.call.isRead := by
  induction p with
  | done b => cases h; exact ⟨rfl, rfl, List.forall_mem_nil _⟩
  | call c next ih =>
    cases c with
    | get k key =>
      have hget : handler s (.get k key) = (.ok (s.object? k key), s) := by
        simp only [handler, get, permit_of_reliable hs]
      obtain ⟨hv, ht, hc⟩ := ih _ h
      simp only [Program.run, Program.calls, hget]
      exact ⟨hv, ht, List.forall_mem_cons.mpr ⟨rfl, hc⟩⟩
    | create | replace | patchStatus => cases h
  | count c next ih => exact ih h

end

end ServerOperator.MemoryStore
