import ServerOperator.Proofs.Refusal

/-!
# What a call does to a store

A call reads an object, stores one, or fails and leaves tables and logs as they are. This is the whole of
it (`effect_handler`), so that what all calls keep is proved by the five cases of `Effect`. The logs follow:
whatever was stored by creating or replacing is in the write log, and nothing else.
-/

namespace ServerOperator

namespace MemoryStore

/-! ## Effects -/

def renewed (s : MemoryStore) (k : Kind) (o : k.Object) : k.Object :=
  k.withVersion o (some s.nextVersion.versionText)

/-- Tables and logs are as before; a version may have been taken. -/
structure Untouched (s t : MemoryStore) : Prop where
  table : ∀ k, t.table k = s.table k
  writes : t.writes = s.writes
  statusPatches : t.statusPatches = s.statusPatches
  version : s.version ≤ t.version

inductive Effect (s : MemoryStore) : (c : Call) → Except StoreFailure c.Answer → MemoryStore → Prop
  | failed {c : Call} {f : StoreFailure} {t : MemoryStore} (untouched : Untouched s t) : Effect s c (.error f) t
  | read {k : Kind} {key : Key} {t : MemoryStore} (alike : Alike t s) :
    Effect s (.get k key) (.ok (s.object? k key)) t
  | created {k : Kind} {space name : String} {o : k.Object} {t : MemoryStore}
    (named : (k.metadata o).name = some name) (free : s.object? k ⟨space, name⟩ = none)
    (alike : Alike t (s.written .create k ⟨space, name⟩ (k.inSpace o space))) :
    Effect s (.create k space o) (.ok (s.renewed k (k.inSpace o space))) t
  | replaced {k : Kind} {key : Key} {o live : k.Object} {t : MemoryStore} (stored : s.object? k key = some live)
    (current : (k.metadata o).resourceVersion = (k.metadata live).resourceVersion)
    (alike : Alike t (s.written .replace k key (retain k live o))) :
    Effect s (.replace k key o) (.ok (s.renewed k (retain k live o))) t
  | patched {key : Key} {status : ServerStatus} {live : Server} {t : MemoryStore}
    (stored : s.object? .server key = some live) (alike : Alike t (s.patched key live status)) :
    Effect s (.patchStatus key status) (.ok ()) t

variable {s t u : MemoryStore}

theorem Alike.table (h : Alike s t) (k : Kind) : s.table k = t.table k := by
  obtain ⟨f, rfl⟩ := h.exists_failures
  cases k <;> rfl

theorem Alike.version (h : Alike s t) : s.version = t.version := by
  obtain ⟨f, rfl⟩ := h.exists_failures
  rfl

theorem Alike.renewed (h : Alike s t) (k : Kind) (o : k.Object) : s.renewed k o = t.renewed k o := by
  obtain ⟨f, rfl⟩ := h.exists_failures
  rfl

theorem Untouched.of_alike (h : Alike t s) : Untouched s t :=
  ⟨h.table, h.writes, h.statusPatches, Nat.le_of_eq h.version.symm⟩

theorem Untouched.nextVersion (h : Alike t s) : Untouched s t.nextVersion :=
  ⟨fun k => .trans (by cases k <;> rfl) (h.table k), h.writes, h.statusPatches,
    Nat.le_trans (Nat.le_of_eq h.version.symm) (Nat.le_succ _)⟩

/-- Every call has one of the effects. -/
theorem effect_handler (s : MemoryStore) (c : Call) : Effect s c (handler s c).1 (handler s c).2 := by
  cases c with
  | get k key =>
    rcases get_cases s k key with ⟨_, f, h⟩ | ⟨_, t, ht, h⟩ <;> rw [h]
    · exact .failed (.of_alike (.refl s))
    · exact .read ht.alike
  | create k space o =>
    rcases permit_cases s k .create with ⟨_, f, h⟩ | ⟨_, t, ht, h⟩
    · simp only [handler, create, h]
      exact .failed (.of_alike (.refl s))
    cases named : (k.metadata o).name with
    | none =>
      simp only [handler, create, h, named]
      exact .failed (.of_alike ht.alike)
    | some name =>
      have hlive : t.nextVersion.object? k ⟨space, name⟩ = s.object? k ⟨space, name⟩ :=
        .trans (by cases k <;> rfl) (ht.alike.object? k _)
      cases free : s.object? k ⟨space, name⟩ with
      | some live =>
        -- The version is taken before the place turns out to be taken, and is lost.
        simp only [handler, create, h, named, hlive, free]
        exact .failed (.nextVersion ht.alike)
      | none =>
        have he : create s k space o =
            (.ok (t.nextVersion.stamp k (k.inSpace o space)),
              t.written .create k ⟨space, name⟩ (k.inSpace o space)) := by
          simp only [create, h, named, hlive, free, Kind.inSpace, written]
        have hnew : t.nextVersion.stamp k (k.inSpace o space) = s.renewed k (k.inSpace o space) :=
          ht.alike.renewed k (k.inSpace o space)
        rw [handler, he, hnew]
        exact .created named free (ht.alike.written ..)
  | replace k key o =>
    rcases permit_cases s k .replace with ⟨_, f, h⟩ | ⟨_, t, ht, h⟩
    · simp only [handler, replace, h]
      exact .failed (.of_alike (.refl s))
    cases stored : s.object? k key with
    | none =>
      simp only [handler, replace, h, ht.alike.object?, stored]
      exact .failed (.of_alike ht.alike)
    | some live =>
      by_cases current : (k.metadata o).resourceVersion = (k.metadata live).resourceVersion
      · have he : replace s k key o =
            (.ok (t.nextVersion.stamp k (retain k live o)), t.written .replace k key (retain k live o)) := by
          simp only [replace, h, ht.alike.object?, stored, current, if_true]
          rfl
        have hnew : t.nextVersion.stamp k (retain k live o) = s.renewed k (retain k live o) :=
          ht.alike.renewed k (retain k live o)
        rw [handler, he, hnew]
        exact .replaced stored current (ht.alike.written ..)
      · simp only [handler, replace, h, ht.alike.object?, stored, current, if_false]
        exact .failed (.of_alike ht.alike)
  | patchStatus key status =>
    rcases permit_cases s .server .patchStatus with ⟨_, f, h⟩ | ⟨_, t, ht, h⟩
    · simp only [handler, patchStatus, h]
      exact .failed (.of_alike (.refl s))
    cases stored : s.object? .server key with
    | none =>
      simp only [handler, patchStatus, h, ht.alike.object?, stored]
      exact .failed (.of_alike ht.alike)
    | some live =>
      simp only [handler, patchStatus, h, ht.alike.object?, stored]
      exact .patched stored (ht.alike.patched key live status)

end MemoryStore

/-! ## Logs -/

open MemoryStore (Alike Effect handler effect_handler)

namespace CallRecord

def entry? : CallRecord → Option WriteRecord
  | ⟨.create k _ o, .ok _⟩ => some ⟨.create, k, (k.metadata o).name.getD ""⟩
  | ⟨.replace k key _, .ok _⟩ => some ⟨.replace, k, key.name⟩
  | _ => none

def status? : CallRecord → Option ServerStatus
  | ⟨.patchStatus _ status, .ok _⟩ => some status
  | _ => none

end CallRecord

namespace MemoryStore

theorem logs_handler (s : MemoryStore) (c : Call) :
    (handler s c).2.writes = s.writes ++ (CallRecord.entry? ⟨c, (handler s c).1⟩).toList ∧
      (handler s c).2.statusPatches = s.statusPatches ++ (CallRecord.status? ⟨c, (handler s c).1⟩).toList := by
  have h := effect_handler s c
  generalize (handler s c).1 = r, (handler s c).2 = t at h
  cases h with
  | failed h => cases c <;> simp [CallRecord.entry?, CallRecord.status?, h.writes, h.statusPatches]
  | read h => simp [CallRecord.entry?, CallRecord.status?, h.writes, h.statusPatches]
  | created named _ h =>
    simp [CallRecord.entry?, CallRecord.status?, h.writes, h.statusPatches, written_writes, written_statusPatches,
      named]
  | replaced _ _ h =>
    simp [CallRecord.entry?, CallRecord.status?, h.writes, h.statusPatches, written_writes, written_statusPatches]
  | patched _ h =>
    simp only [CallRecord.entry?, CallRecord.status?, h.writes, h.statusPatches]
    exact ⟨(List.append_nil _).symm, rfl⟩

/-- The logs of a run are those of its calls. -/
theorem logs_run {α : Type} (p : Program α) (s : MemoryStore) :
    (p.run handler s).state.writes = s.writes ++ (p.calls handler s).filterMap CallRecord.entry? ∧
      (p.run handler s).state.statusPatches = s.statusPatches ++ (p.calls handler s).filterMap CallRecord.status? := by
  induction p generalizing s with
  | done a => exact ⟨(List.append_nil _).symm, (List.append_nil _).symm⟩
  | call c next ih =>
    obtain ⟨hwrites, hpatches⟩ := logs_handler s c
    obtain ⟨hw, hp⟩ := ih (handler s c).1 (handler s c).2
    constructor
    · refine hw.trans ?_
      rw [hwrites, List.append_assoc, Program.calls, List.filterMap_cons]
      cases CallRecord.entry? ⟨c, (handler s c).1⟩ <;> rfl
    · refine hp.trans ?_
      rw [hpatches, List.append_assoc, Program.calls, List.filterMap_cons]
      cases CallRecord.status? ⟨c, (handler s c).1⟩ <;> rfl
  | count c next ih => exact ih s

end MemoryStore

end ServerOperator
