import ServerOperator.Proofs.Merging
import ServerOperator.Proofs.Runs
import ServerOperator.Store.Memory

/-!
# Calls to the store in memory

Every call is either refused, and then changes nothing, or does what its name says. What a successful
write leaves is one store (`written`, `patched`), whatever the call came from; stores that differ only in
the failures they are set to (`Alike`) stay so under the same writes.
-/

namespace ServerOperator

namespace MemoryStore

/-! ## Tables -/

@[simp] theorem table_withTable (s : MemoryStore) (k : Kind) (t : Table Key k.Object) :
    (s.withTable k t).table k = t := by
  cases k <;> rfl

theorem table_withTable_ne (s : MemoryStore) {k k' : Kind} (h : k' ≠ k) (t : Table Key k.Object) :
    (s.withTable k t).table k' = s.table k' := by
  cases k <;> cases k' <;> first | rfl | exact absurd rfl h

theorem object?_put (s : MemoryStore) (k : Kind) (key key' : Key) (o : k.Object) :
    (s.put k key o).object? k key' = if key = key' then some o else s.object? k key' := by
  simp only [object?, put, table_withTable, Table.get?_insert]

theorem object?_put_ne (s : MemoryStore) {k k' : Kind} {key key' : Key} (o : k.Object)
    (h : k' ≠ k ∨ key' ≠ key) : (s.put k key o).object? k' key' = s.object? k' key' := by
  by_cases hk : k' = k
  · subst hk
    rw [object?_put, if_neg (Ne.symm (h.resolve_left (not_not_intro rfl)))]
  · simp only [object?, put, table_withTable_ne s hk]

/-! ## What a write leaves -/

def written (s : MemoryStore) (op : Operation) (k : Kind) (key : Key) (o : k.Object) : MemoryStore :=
  (s.nextVersion.put k key (s.nextVersion.stamp k o)).record op k key.name

def patched (s : MemoryStore) (key : Key) (live : Server) (status : ServerStatus) : MemoryStore :=
  let t := s.nextVersion.put .server key (s.nextVersion.stamp .server { live with status := some status })
  { t with statusPatches := t.statusPatches ++ [status] }

section
variable (s : MemoryStore) (op : Operation) (k : Kind) (key : Key) (o : k.Object)

theorem object?_written :
    (s.written op k key o).object? k key = some (k.withVersion o (some s.nextVersion.versionText)) := by
  have h : (s.written op k key o).object? k key =
      (s.nextVersion.put k key (s.nextVersion.stamp k o)).object? k key := by cases k <;> rfl
  rw [h, object?_put, if_pos rfl]
  rfl

theorem object?_written_ne {k' : Kind} {key' : Key} (h : k' ≠ k ∨ key' ≠ key) :
    (s.written op k key o).object? k' key' = s.object? k' key' := by
  have e : (s.written op k key o).object? k' key' =
      (s.nextVersion.put k key (s.nextVersion.stamp k o)).object? k' key' := by cases k' <;> rfl
  rw [e, object?_put_ne _ _ h]
  cases k' <;> rfl

theorem written_writes : (s.written op k key o).writes = s.writes ++ [⟨op, k, key.name⟩] := by
  cases k <;> rfl

theorem written_statusPatches : (s.written op k key o).statusPatches = s.statusPatches := by
  cases k <;> rfl

theorem written_failures : (s.written op k key o).failures = s.failures := by
  cases k <;> rfl

theorem written_servers (hk : k ≠ .server) : (s.written op k key o).servers = s.servers := by
  cases k <;> first | rfl | exact absurd rfl hk

end

section
variable (s : MemoryStore) (key : Key) (live : Server) (status : ServerStatus)

theorem object?_patched : (s.patched key live status).object? .server key =
    some (Kind.server.withVersion { live with status := some status } (some s.nextVersion.versionText)) :=
  (object?_put ..).trans (if_pos rfl)

theorem object?_patched_ne {k' : Kind} {key' : Key} (h : k' ≠ .server ∨ key' ≠ key) :
    (s.patched key live status).object? k' key' = s.object? k' key' := by
  have e : (s.patched key live status).object? k' key' = (s.nextVersion.put .server key
      (s.nextVersion.stamp .server { live with status := some status })).object? k' key' := by cases k' <;> rfl
  rw [e, object?_put_ne _ _ h]
  cases k' <;> rfl

end

/-! ## Stores alike -/

/-- The stores differ at most in the failures they are set to. -/
def Alike (s t : MemoryStore) : Prop := s.clearFailures = t.clearFailures

namespace Alike

variable {s t u : MemoryStore}

theorem refl (s : MemoryStore) : Alike s s := rfl
theorem symm (h : Alike s t) : Alike t s := Eq.symm h
theorem trans (h : Alike s t) (h' : Alike t u) : Alike s u := Eq.trans h h'

theorem exists_failures (h : Alike s t) : ∃ f, s = { t with failures := f } := by
  refine ⟨s.failures, ?_⟩
  cases s; cases t
  simp only [Alike, clearFailures, mk.injEq] at h ⊢
  simp [h]

theorem object? (h : Alike s t) (k : Kind) (key : Key) : s.object? k key = t.object? k key := by
  obtain ⟨f, rfl⟩ := h.exists_failures
  cases k <;> rfl

theorem servers (h : Alike s t) : s.servers = t.servers := by
  obtain ⟨f, rfl⟩ := h.exists_failures
  rfl

theorem writes (h : Alike s t) : s.writes = t.writes := by
  obtain ⟨f, rfl⟩ := h.exists_failures
  rfl

theorem statusPatches (h : Alike s t) : s.statusPatches = t.statusPatches := by
  obtain ⟨f, rfl⟩ := h.exists_failures
  rfl

theorem written (h : Alike s t) (op : Operation) (k : Kind) (key : Key) (o : k.Object) :
    Alike (s.written op k key o) (t.written op k key o) := by
  obtain ⟨f, rfl⟩ := h.exists_failures
  cases k <;> rfl

theorem patched (h : Alike s t) (key : Key) (live : Server) (status : ServerStatus) :
    Alike (s.patched key live status) (t.patched key live status) := by
  obtain ⟨f, rfl⟩ := h.exists_failures
  rfl

end Alike

theorem clearFailures_alike (s : MemoryStore) : Alike s.clearFailures s := rfl

end MemoryStore

end ServerOperator
