import ServerOperator.Proofs.Conflicts
import ServerOperator.Proofs.Effects

/-!
# What a store keeps over its history

All kinds take their versions from one counter, which only grows. So no two stored objects have one version,
whatever their kinds, and what is stored now is newer than all that was ever stored. The rules of the
individual operations, and that a failed one leaves no trace, are read off their effects.
-/

namespace ServerOperator

open MemoryStore (handler Stores Untouched Effect effect_handler)

/-! ## Generations -/

theorem toInt_nextGeneration {g : Int64} (h : g.toInt < Int64.maxValue.toInt) : (g + 1).toInt = g.toInt + 1 := by
  have hlow := g.minValue_le_toInt
  have hmax : Int64.maxValue.toInt = 2 ^ 63 - 1 := rfl
  have hmin : Int64.minValue.toInt = -2 ^ 63 := rfl
  rw [Int64.toInt_add, show (1 : Int64).toInt = 1 from rfl]
  exact Int.bmod_eq_of_le (by omega) (by omega)

structure Server.Replaces (live incoming stored : Server) : Prop where
  spec : stored.spec = incoming.spec
  status : stored.status = live.status
  generation : (live.metadata.generation.getD 1).toInt < Int64.maxValue.toInt →
    ∃ g, stored.metadata.generation = some g ∧
      g.toInt = (live.metadata.generation.getD 1).toInt + if incoming.spec = live.spec then 0 else 1

theorem Server.replaces_retain (live incoming : Server) (version : Option String) :
    live.Replaces incoming (Kind.server.withVersion (MemoryStore.retain .server live incoming) version) := by
  refine ⟨rfl, rfl, fun hlast => ⟨_, rfl, ?_⟩⟩
  split
  · exact (Int.add_zero _).symm
  · exact toInt_nextGeneration hlast

/-! ## Steps -/

namespace Step

variable {s : MemoryStore} {step : Step} {k k' : Kind} {key key' : Key}

def stored? (s : MemoryStore) : Step → Option (Kind × Key)
  | call c => if (handler s c).1.isOk then c.place? else none
  | insert server => some (.server, ⟨server.metadata.space, server.metadata.name.getD ""⟩)
  | delete .. | markReady _ | failAfter .. | clearFailures => none

def entry? (s : MemoryStore) : Step → Option WriteRecord
  | call c => CallRecord.entry? ⟨c, (handler s c).1⟩
  | insert _ | delete .. | markReady _ | failAfter .. | clearFailures => none

def entries : List Step → MemoryStore → List WriteRecord
  | [], _ => []
  | step :: rest, s => (step.entry? s).toList ++ entries rest (step.run s)

def Seen (history : List Step) (k : Kind) (o : k.Object) : Prop :=
  ∃ earlier key, earlier <+: history ∧ ((∅ : MemoryStore).after earlier).object? k key = some o

theorem stores_of_stored? (h : step.stored? s = some (k, key)) : Stores s (step.run s) k key := by
  cases step with
  | call c =>
    obtain ⟨hok, hplace⟩ : (handler s c).1.isOk = true ∧ c.place? = some (k, key) := by simpa [stored?] using h
    rcases MemoryStore.handler_cases s c with ⟨hno | hno, _⟩ | ⟨k', key', hplace', _, hstores⟩
    · rw [hplace] at hno; cases hno
    · rw [hok] at hno; cases hno
    · cases hplace.symm.trans hplace'
      exact hstores
  | insert server =>
    cases h
    exact MemoryStore.stores_insertServer s server
  | delete | markReady | failAfter | clearFailures => cases h

theorem writes_unique (h : step.Writes s k key) (h' : step.Writes s k' key') : k = k' ∧ key = key' := by
  cases step with
  | call c =>
    cases h.1.symm.trans h'.1
    exact ⟨rfl, rfl⟩
  | insert server | delete => exact ⟨h.1.trans h'.1.symm, h.2.trans h'.2.symm⟩
  | markReady | failAfter | clearFailures => exact h.elim

theorem writes_run (s : MemoryStore) (step : Step) : (step.run s).writes = s.writes ++ (step.entry? s).toList := by
  cases step with
  | call c => exact (MemoryStore.logs_handler s c).1
  | delete k key => cases k <;> exact (List.append_nil _).symm
  | markReady key =>
    have hkept : (s.markReady key).writes = s.writes := by
      unfold MemoryStore.markReady
      split <;> rfl
    exact hkept.trans (List.append_nil _).symm
  | insert | failAfter | clearFailures => exact (List.append_nil _).symm

end Step

/-! ## Histories -/

namespace MemoryStore

variable {s : MemoryStore}

theorem version_le_after (s : MemoryStore) (steps : List Step) : s.version ≤ (s.after steps).version := by
  induction steps generalizing s with
  | nil => exact Nat.le_refl _
  | cons step steps ih => exact Nat.le_trans (step.version_le s) (ih _)

theorem writes_after (s : MemoryStore) (steps : List Step) :
    (s.after steps).writes = s.writes ++ Step.entries steps s := by
  induction steps generalizing s with
  | nil => exact (List.append_nil _).symm
  | cons step steps ih =>
    have hstep := step.writes_run s
    refine (ih _).trans ?_
    rw [hstep, List.append_assoc]
    rfl

/-- No stored object has a version above the counter, and no two have the same, of whatever kinds they are. -/
structure Consistent (s : MemoryStore) : Prop where
  versioned : s.Versioned
  apart : ∀ k key o k' key' o', s.object? k key = some o → s.object? k' key' = some o' → k ≠ k' ∨ key ≠ key' →
    (k.metadata o).resourceVersion ≠ (k'.metadata o').resourceVersion

theorem consistent_empty : Consistent ∅ where
  versioned := versioned_empty
  apart := fun k key o _ _ _ ho => by cases k <;> cases ho

/-- What a step has just written is newer than what was stored before. -/
theorem Versioned.ne_of_writes (hs : s.Versioned) {step : Step} {k k' : Kind} {key key' : Key} {o : k.Object}
    {o' : k'.Object} (hw : step.Writes s k key) (ho : (step.run s).object? k key = some o)
    (hw' : ¬ step.Writes s k' key') (ho' : (step.run s).object? k' key' = some o') :
    (k.metadata o).resourceVersion ≠ (k'.metadata o').resourceVersion := by
  obtain ⟨hlt, hnew⟩ := Step.version_of_writes hw o ho
  obtain ⟨old, hold, hsame⟩ := version_eq_of_unreported (Step.unreported_of_not_writes hw') ho'
  obtain ⟨n, hn, hv⟩ := hs k' key' old hold
  rw [hnew, ← hsame, hv]
  intro h
  have : (step.run s).version = n := versionText_inj (Option.some.inj h)
  omega

theorem Consistent.step (hs : s.Consistent) (step : Step) : (step.run s).Consistent where
  versioned := hs.versioned.step step
  apart := fun k key o k' key' o' ho ho' hne => by
    by_cases hw : step.Writes s k key <;> by_cases hw' : step.Writes s k' key'
    · obtain ⟨rfl, rfl⟩ := Step.writes_unique hw hw'
      rcases hne with h | h <;> exact absurd rfl h
    · exact hs.versioned.ne_of_writes hw ho hw' ho'
    · exact (hs.versioned.ne_of_writes hw' ho' hw ho).symm
    · -- Neither was written: both versions are from before the step.
      obtain ⟨old, hold, hsame⟩ := version_eq_of_unreported (Step.unreported_of_not_writes hw) ho
      obtain ⟨old', hold', hsame'⟩ := version_eq_of_unreported (Step.unreported_of_not_writes hw') ho'
      rw [← hsame, ← hsame']
      exact hs.apart k key old k' key' old' hold hold' hne

theorem Consistent.after (hs : s.Consistent) (steps : List Step) : (s.after steps).Consistent := by
  induction steps generalizing s with
  | nil => exact hs
  | cons step steps ih => exact ih (hs.step step)

theorem version_of_seen {history : List Step} {k : Kind} {o : k.Object} (h : Step.Seen history k o) :
    ∃ n, n ≤ ((∅ : MemoryStore).after history).version ∧ (k.metadata o).resourceVersion = some (toString n) := by
  obtain ⟨earlier, key, ⟨later, rfl⟩, ho⟩ := h
  obtain ⟨n, hn, hv⟩ := (versioned_empty.after earlier) k key o ho
  have hgrow := version_le_after ((∅ : MemoryStore).after earlier) later
  rw [MemoryStore.after, MemoryStore.after, ← List.foldl_append] at hgrow
  exact ⟨n, Nat.le_trans hn hgrow, hv⟩

/-! ## The rules of the operations -/

structure Lawful (history : List Step) (s : MemoryStore) : Prop where
  /-- Whatever is stored gets a version above the counter and above those of all objects there have been. -/
  newest : ∀ (step : Step) (k : Kind) (key : Key), step.stored? s = some (k, key) →
    ∃ o n, (step.run s).object? k key = some o ∧ (k.metadata o).resourceVersion = some (toString n) ∧ s.version < n ∧
      ∀ k' o', Step.Seen history k' o' → ∃ m, m < n ∧ (k'.metadata o').resourceVersion = some (toString m)
  /-- A replacement keeps the status of what it replaces. -/
  status : ∀ (k : Kind) (key : Key) (o : k.Object), (handler s (.replace k key o)).1.isOk = true →
    ∃ live stored, s.object? k key = some live ∧ (handler s (.replace k key o)).2.object? k key = some stored ∧
      k.SameStatus stored live
  server : ∀ (key : Key) (o : Server), (handler s (.replace .server key o)).1.isOk = true →
    ∃ live stored : Server, s.object? .server key = some live ∧
      (handler s (.replace .server key o)).2.object? .server key = some stored ∧ live.Replaces o stored
  /-- A status patch changes nothing but the status and the version of one server. -/
  patch : ∀ (key : Key) (status : ServerStatus), (handler s (.patchStatus key status)).1.isOk = true →
    ∃ (live : Server) (version : Option String), s.object? .server key = some live ∧
      (handler s (.patchStatus key status)).2.object? .server key =
        some (Kind.server.withVersion { live with status := some status } version) ∧
      ∀ k' key', k' ≠ .server ∨ key' ≠ key → (handler s (.patchStatus key status)).2.object? k' key' = s.object? k' key'
  /-- What fails leaves tables and logs as they are. -/
  failed : ∀ c : Call, (handler s c).1.isOk = false → Untouched s (handler s c).2

theorem lawful_after (history : List Step) : Lawful history ((∅ : MemoryStore).after history) where
  newest := fun step k key h => by
    obtain ⟨hversion, ⟨o, ho, hv⟩, _⟩ := Step.stores_of_stored? h
    refine ⟨o, _, ho, hv, by omega, fun k' o' hseen => ?_⟩
    obtain ⟨m, hm, hv'⟩ := version_of_seen hseen
    exact ⟨m, by omega, hv'⟩
  status := fun k key o hok => by
    obtain ⟨live, version, hlive, _, hstored⟩ := of_replace hok
    exact ⟨live, _, hlive, hstored, sameStatus_retain k live o version⟩
  server := fun key o hok => by
    obtain ⟨live, version, hlive, _, hstored⟩ := of_replace hok
    exact ⟨live, _, hlive, hstored, Server.replaces_retain live o version⟩
  patch := fun key status hok => by
    have h := effect_handler ((∅ : MemoryStore).after history) (.patchStatus key status)
    generalize (handler _ (.patchStatus key status)).1 = r, (handler _ (.patchStatus key status)).2 = t at h hok ⊢
    cases h with
    | failed => cases hok
    | patched stored alike =>
      refine ⟨_, _, stored, (alike.object? ..).trans (object?_patched ..), fun k' key' hne => ?_⟩
      rw [alike.object?, object?_patched_ne _ _ _ _ hne]
  failed := fun c hfail => by
    have h := effect_handler ((∅ : MemoryStore).after history) c
    generalize (handler _ c).1 = r, (handler _ c).2 = t at h hfail ⊢
    cases h with
    | failed h => exact h
    | read | created | replaced | patched => cases hfail

end MemoryStore

/-- Whatever happens to a store that starts empty, its versions are apart, its write log is that of the creations
and replacements that succeeded, and each operation goes by the rules. -/
theorem store_is_consistent_and_lawful (history : List Step) :
    let s := (∅ : MemoryStore).after history
    s.Consistent ∧ s.writes = Step.entries history ∅ ∧ MemoryStore.Lawful history s :=
  ⟨MemoryStore.consistent_empty.after history, MemoryStore.writes_after ∅ history, MemoryStore.lawful_after history⟩

def appliedStore : MemoryStore := (∅ : MemoryStore).after [.insert sampleServer]

def retaggedServer : Server :=
  { sampleServer with spec := { sampleServer.spec with imageTag := some "v3" }, status := none }

/-- The sample server is replaced at its first version: it keeps its status, and has its fourth generation. -/
theorem store_is_consistent_and_lawful_sample : ∃ live stored : Server,
    (handler appliedStore (.replace .server sampleServer.key retaggedServer)).2.object? .server sampleServer.key =
        some stored ∧
      live.Replaces retaggedServer stored ∧ stored.status = sampleServer.status ∧
      stored.metadata.generation = some 4 := by
  obtain ⟨_, _, hlaws⟩ := store_is_consistent_and_lawful [.insert sampleServer]
  obtain ⟨live, stored, _, hstored, hreplaces⟩ := hlaws.server sampleServer.key retaggedServer rfl
  cases hstored
  exact ⟨live, _, rfl, hreplaces, rfl, rfl⟩

end ServerOperator
