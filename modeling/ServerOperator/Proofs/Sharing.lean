import ServerOperator.Proofs.Effects

/-!
# Sharing a store

Others work on the store between the calls of a program: clients call it too, users apply servers, and
the cluster reports replicas. Whoever writes an object gives it a version that no object had before, so
an object that is met again at the version it was read at was not written in between.
-/

namespace ServerOperator

open MemoryStore (handler)

inductive Step where
  | call (c : Call)
  | insert (server : Server)
  | delete (kind : Kind) (key : Key)
  | markReady (key : Key)
  | failAfter (kind : String) (op : Operation) (successes : Nat)
  | clearFailures

namespace Step

def run (s : MemoryStore) : Step → MemoryStore
  | call c => (handler s c).2
  | insert server => s.insertServer server
  | delete k key => (s.delete k key).2
  | markReady key => s.markReady key
  | failAfter kind op n => s.failAfter kind op n
  | clearFailures => s.clearFailures

/-- The step writes or deletes the object at a place. A call that fails writes nothing. -/
def Writes (s : MemoryStore) (k : Kind) (key : Key) : Step → Prop
  | call c => c.place? = some (k, key) ∧ (handler s c).1.isOk = true
  | insert server => k = .server ∧ key = ⟨server.metadata.space, server.metadata.name.getD ""⟩
  | delete k' key' => k = k' ∧ key = key'
  | markReady _ | failAfter .. | clearFailures => False

def AnyWrites (k : Kind) (key : Key) : List Step → MemoryStore → Prop
  | [], _ => False
  | step :: rest, s => step.Writes s k key ∨ AnyWrites k key rest (step.run s)

def place? : Step → Option (Kind × Key)
  | call c => c.place?
  | insert server => some (.server, ⟨server.metadata.space, server.metadata.name.getD ""⟩)
  | delete k key => some (k, key)
  | markReady _ | failAfter .. | clearFailures => none

theorem Writes.place? {step : Step} {s : MemoryStore} {k : Kind} {key : Key} (h : step.Writes s k key) :
    step.place? = some (k, key) := by
  cases step with
  | call c => exact h.1
  | insert server => rw [h.1, h.2]; rfl
  | delete k' key' => rw [h.1, h.2]; rfl
  | markReady _ | failAfter _ _ _ | clearFailures => exact h.elim

theorem not_anyWrites {k : Kind} {key : Key} {steps : List Step} (h : ∀ step ∈ steps, step.place? ≠ some (k, key))
    (s : MemoryStore) : ¬ AnyWrites k key steps s := by
  induction steps generalizing s with
  | nil => exact id
  | cons step steps ih =>
    obtain ⟨hstep, hsteps⟩ := List.forall_mem_cons.mp h
    exact not_or.mpr ⟨fun hw => hstep hw.place?, ih hsteps _⟩

end Step

def MemoryStore.after (s : MemoryStore) (steps : List Step) : MemoryStore := steps.foldl Step.run s

/-- An object but for what is reported of it without a new version: the status of a Deployment. -/
def Kind.unreported : (k : Kind) → k.Object → k.Object
  | .server, o => o
  | .deployment, o => { (o : Deployment) with status := none }
  | .service, o => o
  | .ingress, o => o

namespace MemoryStore

/-! ## One call -/

structure Keeps (s t : MemoryStore) : Prop where
  table : ∀ k, t.table k = s.table k
  version : s.version ≤ t.version

structure Stores (s t : MemoryStore) (k : Kind) (key : Key) : Prop where
  version : t.version = s.version + 1
  object : ∃ o, t.object? k key = some o ∧ (k.metadata o).resourceVersion = some (toString t.version)
  frame : ∀ k' key', k' ≠ k ∨ key' ≠ key → t.object? k' key' = s.object? k' key'

section
variable {s t u : MemoryStore} {k : Kind} {key : Key}

theorem Keeps.object? (h : Keeps s t) (k : Kind) (key : Key) : t.object? k key = s.object? k key :=
  congrArg (Table.get? · key) (h.table k)

theorem Untouched.keeps (h : Untouched s t) : Keeps s t := ⟨h.table, h.version⟩

theorem Stores.of_alike (ht : Stores s t k key) (h : Alike u t) : Stores s u k key where
  version := h.version.trans ht.version
  object := by
    rw [h.object?, h.version]
    exact ht.object
  frame k' key' hne := (h.object? k' key').trans (ht.frame k' key' hne)

theorem Stores.of_put {o : k.Object} (hv : t.version = s.version + 1)
    (ht : ∀ k', t.table k' = (s.nextVersion.put k key (s.nextVersion.stamp k o)).table k') : Stores s t k key := by
  have hobj (k' : Kind) (key' : Key) :
      t.object? k' key' = (s.nextVersion.put k key (s.nextVersion.stamp k o)).object? k' key' :=
    congrArg (Table.get? · key') (ht k')
  refine ⟨hv, ⟨s.nextVersion.stamp k o, ?_, ?_⟩, fun k' key' hne => ?_⟩
  · rw [hobj, object?_put, if_pos rfl]
  · rw [hv]
    cases k <;> rfl
  · rw [hobj, object?_put_ne _ _ hne]
    cases k' <;> rfl

theorem stores_written (op : Operation) (o : k.Object) : Stores s (s.written op k key o) k key :=
  .of_put (by cases k <;> rfl) fun k' => by cases k' <;> rfl

theorem stores_patched (live : Server) (status : ServerStatus) : Stores s (s.patched key live status) .server key :=
  .of_put rfl fun k' => by cases k' <;> rfl

end

/-- A call changes no table, because it reads or fails, or it stores the one object it is to write. -/
theorem handler_cases (s : MemoryStore) (c : Call) :
    ((c.place? = none ∨ (handler s c).1.isOk = false) ∧ Keeps s (handler s c).2) ∨
      ∃ k key, c.place? = some (k, key) ∧ (handler s c).1.isOk = true ∧ Stores s (handler s c).2 k key := by
  have h := effect_handler s c
  generalize (handler s c).1 = r, (handler s c).2 = t at h ⊢
  cases h with
  | failed h => exact .inl ⟨.inr rfl, h.keeps⟩
  | read h => exact .inl ⟨.inl rfl, (Untouched.of_alike h).keeps⟩
  | created named _ h => exact .inr ⟨_, _, congrArg (Option.map _) named, rfl, (stores_written ..).of_alike h⟩
  | replaced _ _ h => exact .inr ⟨_, _, rfl, rfl, (stores_written ..).of_alike h⟩
  | patched _ h => exact .inr ⟨_, _, rfl, rfl, (stores_patched ..).of_alike h⟩

theorem stores_insertServer (s : MemoryStore) (server : Server) :
    Stores s (s.insertServer server) .server ⟨server.metadata.space, server.metadata.name.getD ""⟩ :=
  .of_put rfl fun k => by cases k <;> rfl

end MemoryStore

open MemoryStore

@[simp] theorem Kind.version_unreported (k : Kind) (o : k.Object) :
    (k.metadata (k.unreported o)).resourceVersion = (k.metadata o).resourceVersion := by
  cases k <;> rfl

/-! ## One step -/

namespace Step

variable {s : MemoryStore} {step : Step} {k : Kind} {key : Key}

theorem object?_delete (s : MemoryStore) (k : Kind) (key : Key) : ((delete k key).run s).object? k key = none := by
  simp only [run, MemoryStore.delete, MemoryStore.object?, table_withTable, Table.get?_erase, if_true]

theorem object?_delete_ne {k' : Kind} {key' : Key} (h : k' ≠ k ∨ key' ≠ key) :
    ((delete k key).run s).object? k' key' = s.object? k' key' := by
  by_cases hk : k' = k
  · subst hk
    have hne : key ≠ key' := (h.resolve_left (not_not_intro rfl)).symm
    simp only [run, MemoryStore.delete, MemoryStore.object?, table_withTable, Table.get?_erase, if_neg hne]
  · simp only [run, MemoryStore.delete, MemoryStore.object?, table_withTable_ne s hk]

theorem unreported_markReady (s : MemoryStore) (key : Key) (k : Kind) (key' : Key) :
    ((s.markReady key).object? k key').map k.unreported = (s.object? k key').map k.unreported := by
  unfold MemoryStore.markReady
  split
  · rfl
  · next d hd =>
    by_cases hne : k ≠ .deployment ∨ key' ≠ key
    · rw [object?_put_ne _ _ hne]
    · obtain ⟨rfl, rfl⟩ : k = .deployment ∧ key' = key := by simpa [not_or] using hne
      rw [object?_put, if_pos rfl, hd]
      rfl

theorem version_le (s : MemoryStore) (step : Step) : s.version ≤ (step.run s).version := by
  cases step with
  | call c =>
    rcases handler_cases s c with ⟨_, h⟩ | ⟨_, _, _, _, h⟩
    · exact h.version
    · exact Nat.le_of_lt (Nat.lt_of_lt_of_eq (Nat.lt_succ_self _) h.version.symm)
  | insert server => exact Nat.le_succ _
  | delete k key => cases k <;> exact Nat.le_refl _
  | markReady key =>
    show s.version ≤ (s.markReady key).version
    unfold MemoryStore.markReady
    split <;> exact Nat.le_refl _
  | failAfter | clearFailures => exact Nat.le_refl _

/-- Where a step writes there is nothing after it, or an object at a version taken by the step. -/
theorem version_of_writes (h : step.Writes s k key) : ∀ o, (step.run s).object? k key = some o →
    s.version < (step.run s).version ∧ (k.metadata o).resourceVersion = some (toString (step.run s).version) := by
  have hstores {t : MemoryStore} (ht : Stores s t k key) : ∀ o, t.object? k key = some o →
      s.version < t.version ∧ (k.metadata o).resourceVersion = some (toString t.version) := by
    intro o ho
    obtain ⟨o', ho', hv⟩ := ht.object
    cases ho.symm.trans ho'
    exact ⟨by rw [ht.version]; exact Nat.lt_succ_self _, hv⟩
  cases step with
  | call c =>
    obtain ⟨hplace, hok⟩ := h
    -- The call has a place and succeeds, so that it is none of those that keep the tables.
    rcases handler_cases s c with ⟨hfail | hfail, _⟩ | ⟨k', key', hplace', _, ht⟩
    · rw [hplace] at hfail; cases hfail
    · rw [hok] at hfail; cases hfail
    · cases hplace.symm.trans hplace'
      exact hstores ht
  | insert server =>
    obtain ⟨rfl, rfl⟩ := h
    exact hstores (stores_insertServer s server)
  | delete k' key' =>
    obtain ⟨rfl, rfl⟩ := h
    intro o ho
    rw [object?_delete] at ho
    cases ho
  | markReady | failAfter | clearFailures => exact h.elim

theorem unreported_of_not_writes (h : ¬ step.Writes s k key) :
    ((step.run s).object? k key).map k.unreported = (s.object? k key).map k.unreported := by
  have hne {k' : Kind} {key' : Key} (hn : ¬ (k = k' ∧ key = key')) : k ≠ k' ∨ key ≠ key' :=
    Decidable.or_iff_not_not_and_not.mpr fun ⟨hk, hkey⟩ =>
      hn ⟨Decidable.not_not.mp hk, Decidable.not_not.mp hkey⟩
  cases step with
  | call c =>
    show ((handler s c).2.object? k key).map k.unreported = _
    rcases handler_cases s c with ⟨_, ht⟩ | ⟨k', key', hplace, hok, ht⟩
    · rw [ht.object?]
    · rw [ht.frame k key (hne fun ⟨hk, hkey⟩ => h ⟨by rw [hplace, hk, hkey], hok⟩)]
  | insert server =>
    show ((s.insertServer server).object? k key).map k.unreported = _
    rw [(stores_insertServer s server).frame k key (hne h)]
  | delete k' key' => rw [object?_delete_ne (hne h)]
  | markReady key' => exact unreported_markReady s key' k key
  | failAfter | clearFailures => cases k <;> rfl

end Step

/-! ## Many steps -/

namespace MemoryStore

def Versioned (s : MemoryStore) : Prop :=
  ∀ k key o, s.object? k key = some o → ∃ n, n ≤ s.version ∧ (k.metadata o).resourceVersion = some (toString n)

/-- The object at the place is gone, or has a version given after the `n`-th. -/
def Superseded (n : Nat) (k : Kind) (key : Key) (s : MemoryStore) : Prop :=
  ∀ o, s.object? k key = some o → ∃ m, n < m ∧ (k.metadata o).resourceVersion = some (toString m)

variable {s : MemoryStore} {n : Nat} {k : Kind} {key : Key}

theorem version_eq_of_unreported {t : MemoryStore} {o : k.Object}
    (h : (t.object? k key).map k.unreported = (s.object? k key).map k.unreported) (ho : t.object? k key = some o) :
    ∃ o', s.object? k key = some o' ∧ (k.metadata o').resourceVersion = (k.metadata o).resourceVersion := by
  rw [ho, Option.map_some] at h
  obtain ⟨o', ho', e⟩ := Option.map_eq_some_iff.mp h.symm
  exact ⟨o', ho', by rw [← Kind.version_unreported, e, Kind.version_unreported]⟩

theorem versioned_empty : Versioned ∅ := by
  intro k key o h
  cases k <;> cases h

theorem Versioned.step (h : Versioned s) (step : Step) : Versioned (step.run s) := by
  intro k key o ho
  by_cases hw : step.Writes s k key
  · obtain ⟨_, hv⟩ := Step.version_of_writes hw o ho
    exact ⟨_, Nat.le_refl _, hv⟩
  · obtain ⟨o', ho', hv⟩ := version_eq_of_unreported (Step.unreported_of_not_writes hw) ho
    obtain ⟨n, hn, hv'⟩ := h k key o' ho'
    exact ⟨n, Nat.le_trans hn (step.version_le s), hv.symm.trans hv'⟩

theorem Versioned.after (h : Versioned s) (steps : List Step) : Versioned (s.after steps) := by
  induction steps generalizing s with
  | nil => exact h
  | cons step steps ih => exact ih (h.step step)

theorem superseded_of_writes {step : Step} (hn : n ≤ s.version) (hw : step.Writes s k key) :
    Superseded n k key (step.run s) := by
  intro o ho
  obtain ⟨hlt, hv⟩ := Step.version_of_writes hw o ho
  exact ⟨_, Nat.lt_of_le_of_lt hn hlt, hv⟩

theorem Superseded.step (h : Superseded n k key s) (hn : n ≤ s.version) (step : Step) :
    Superseded n k key (step.run s) := by
  by_cases hw : step.Writes s k key
  · exact superseded_of_writes hn hw
  · intro o ho
    obtain ⟨o', ho', hv⟩ := version_eq_of_unreported (Step.unreported_of_not_writes hw) ho
    obtain ⟨m, hm, hv'⟩ := h o' ho'
    exact ⟨m, hm, hv.symm.trans hv'⟩

theorem Superseded.after (h : Superseded n k key s) (hn : n ≤ s.version) (steps : List Step) :
    Superseded n k key (s.after steps) := by
  induction steps generalizing s with
  | nil => exact h
  | cons step steps ih => exact ih (h.step hn step) (Nat.le_trans hn (step.version_le s))

/-- Once an object is written, what was read of it before is out of date for good. -/
theorem superseded_of_anyWrites {steps : List Step} (hn : n ≤ s.version) (h : Step.AnyWrites k key steps s) :
    Superseded n k key (s.after steps) := by
  induction steps generalizing s with
  | nil => exact h.elim
  | cons step steps ih =>
    have hn' : n ≤ (step.run s).version := Nat.le_trans hn (step.version_le s)
    rcases h with hw | h
    · -- From the step that writes on, the invariant carries.
      exact (superseded_of_writes hn hw).after hn' steps
    · exact ih hn' h

theorem unreported_of_not_anyWrites {steps : List Step} (h : ¬ Step.AnyWrites k key steps s) :
    ((s.after steps).object? k key).map k.unreported = (s.object? k key).map k.unreported := by
  induction steps generalizing s with
  | nil => rfl
  | cons step steps ih =>
    obtain ⟨hw, hrest⟩ := not_or.mp h
    exact (ih hrest).trans (Step.unreported_of_not_writes hw)

end MemoryStore

/-! ## Programs among others -/

/-- A store and what others do to it before each of the calls to come. -/
structure Shared where
  store : MemoryStore
  others : List (List Step)

namespace Shared

def turn (s : Shared) : List Step := s.others.headD []

def found (s : Shared) : MemoryStore := s.store.after s.turn

def handler : Program.Handler Shared
  | s, c =>
    let r := MemoryStore.handler s.found c
    (r.1, ⟨r.2, s.others.tail⟩)

end Shared

end ServerOperator
