import ServerOperator.Proofs.Protocol
import ServerOperator.Proofs.Sharing

/-!
# No lost update

A pass replaces an object at the version it has just read, and versions are never given twice. So if
somebody else wrote the object in between, even by deleting it and making it anew, the replacement is a
conflict and the pass ends; and if nobody did, what is replaced is what was read. The statuses that are
reported without a new version are the store's to keep.
-/

namespace ServerOperator

def Kind.SameStatus : (k : Kind) → (o o' : k.Object) → Prop
  | .server, o, o' => (o : Server).status = (o' : Server).status
  | .deployment, o, o' => (o : Deployment).status = (o' : Deployment).status
  | .service, _, _ => True
  | .ingress, _, _ => True

namespace MemoryStore

variable {s : MemoryStore} {k : Kind} {key : Key} {o live : k.Object}

theorem versionText_inj {m n : Nat} (h : toString m = toString n) : m = n := by
  rw [Nat.toString_eq_ofList_toDigits, Nat.toString_eq_ofList_toDigits, String.ofList_inj] at h
  rw [← Nat.ofDigitChars_ten_toDigits (n := m), h, Nat.ofDigitChars_ten_toDigits]

/-! ## Calls that others came before -/

theorem of_get {x : Option k.Object} (h : (handler s (.get k key)).1 = .ok x) :
    s.object? k key = x ∧ Alike (handler s (.get k key)).2 s := by
  have he := effect_handler s (.get k key)
  rw [h] at he
  generalize (handler s (.get k key)).2 = t at he ⊢
  cases he with
  | read alike => exact ⟨rfl, alike⟩

theorem sameStatus_retain (k : Kind) (live incoming : k.Object) (version : Option String) :
    k.SameStatus (k.withVersion (retain k live incoming) version) live := by
  cases k <;> first | rfl | trivial

/-- A replacement that succeeds carries the version of what it replaces. -/
theorem of_replace (h : (handler s (.replace k key o)).1.isOk = true) : ∃ now version,
    s.object? k key = some now ∧ (k.metadata o).resourceVersion = (k.metadata now).resourceVersion ∧
      (handler s (.replace k key o)).2.object? k key = some (k.withVersion (retain k now o) version) := by
  have he := effect_handler s (.replace k key o)
  generalize (handler s (.replace k key o)).1 = r, (handler s (.replace k key o)).2 = t at h he ⊢
  cases he with
  | failed => cases h
  | replaced stored current alike =>
    exact ⟨_, _, stored, current, (alike.object? k key).trans (object?_written ..)⟩

theorem create_taken {space name : String} (hn : (k.metadata o).name = some name)
    (hlive : s.object? k ⟨space, name⟩ = some live) : (handler s (.create k space o)).1.isOk = false := by
  have he := effect_handler s (.create k space o)
  generalize (handler s (.create k space o)).1 = r, (handler s (.create k space o)).2 = t at he ⊢
  cases he with
  | failed => rfl
  | created named free _ =>
    cases hn.symm.trans named
    rw [hlive] at free
    cases free

theorem object?_create {space : String} {k' : Kind} {x : k'.Object} (hx : s.object? k' key = some x) :
    (handler s (.create k space o)).2.object? k' key = some x := by
  rcases handler_cases s (.create k space o) with ⟨_, ht⟩ | ⟨k₁, key₁, hplace, hok, ht⟩
  · rw [ht.object?, hx]
  · by_cases hne : k' ≠ k₁ ∨ key ≠ key₁
    · rw [ht.frame k' key hne, hx]
    · obtain ⟨rfl, rfl⟩ : k' = k₁ ∧ key = key₁ := by simpa [not_or] using hne
      obtain ⟨name, hn, he⟩ := Option.map_eq_some_iff.mp hplace
      cases he
      rw [create_taken hn hx] at hok
      cases hok

/-! ## Between a read and a write -/

theorem version_ne_of_anyWrites {steps : List Step} (hs : s.Versioned) (hlive : s.object? k key = some live)
    (hw : Step.AnyWrites k key steps s) {now : k.Object} (hnow : (s.after steps).object? k key = some now) :
    (k.metadata now).resourceVersion ≠ (k.metadata live).resourceVersion := by
  obtain ⟨n, hn, hv⟩ := hs k key live hlive
  obtain ⟨m, hm, hv'⟩ := superseded_of_anyWrites hn hw now hnow
  intro h
  rw [hv, hv'] at h
  have : m = n := versionText_inj (Option.some.inj h)
  omega

end MemoryStore

open MemoryStore

/-- A replacement `o` of an object that was read as `live`: it succeeds only if nobody else wrote the
object since, and then it overwrites what was read, and no status. -/
structure Visit.Replaces (v : Visit Shared) (k : Kind) (key : Key) (live o : k.Object) : Prop where
  revision : Revision k live o
  overwrites : v.Succeeds Shared.handler → ∃ now stored, v.state.found.object? k key = some now ∧
    k.unreported now = k.unreported live ∧ (v.left Shared.handler).store.object? k key = some stored ∧
    k.SameStatus stored now ∧ ∃ version, stored = k.withVersion (retain k now o) version
  conflict : Step.AnyWrites k key v.state.turn v.state.store → ¬ v.Succeeds Shared.handler

namespace Shared

variable {r v : Visit Shared} {k : Kind} {key : Key} {live o : k.Object}

theorem object?_of_read (h : r.record handler = ⟨.get k key, .ok (some live)⟩) :
    (r.left handler).store.object? k key = some live := by
  obtain ⟨s, c⟩ := r
  injection h with hc ha
  subst hc
  obtain ⟨hlive, halike⟩ := of_get (eq_of_heq ha)
  exact (halike.object? k key).trans hlive

theorem replaces (hs : v.state.store.Versioned) (hlive : v.state.store.object? k key = some live)
    (hrev : Revision k live o) (hv : v.call = .replace k key o) : v.Replaces k key live o := by
  obtain ⟨s, c⟩ := v
  subst hv
  have hconflict : Step.AnyWrites k key s.turn s.store → ¬ Visit.Succeeds handler ⟨s, .replace k key o⟩ := by
    intro hw hok
    obtain ⟨now, _, hnow, hversion, _⟩ := of_replace hok
    exact version_ne_of_anyWrites hs hlive hw hnow (hversion.symm.trans hrev.version)
  refine ⟨hrev, fun hok => ?_, hconflict⟩
  -- Since it succeeded, nobody wrote the object in between: it is what was read, up to reports.
  obtain ⟨now, version, hnow, _, hstored⟩ := of_replace hok
  have hsame := unreported_of_not_anyWrites fun hw => hconflict hw hok
  rw [hlive, show (s.store.after s.turn).object? k key = some now from hnow] at hsame
  exact ⟨now, _, hnow, Option.some.inj hsame, hstored, sameStatus_retain k now o version, version, rfl⟩

theorem table_of_failed (h : ¬ v.Succeeds handler) (k : Kind) :
    (v.left handler).store.table k = v.state.found.table k := by
  rcases handler_cases v.state.found v.call with ⟨_, ht⟩ | ⟨_, _, _, hok, _⟩
  · exact ht.table k
  · exact absurd hok h

end Shared

/-- A call of a pass in which others take part: a replacement follows on a read, nothing that is there is lost
by a creation, and a write that fails changes nothing and ends the pass with an error. -/
structure Visit.Careful (v : Visit Shared) (visits : List (Visit Shared)) (result : Except OperatorError Outcome) :
    Prop where
  replace : ∀ k key o, v.call = .replace k key o → ∃ r live, [r, v] <:+: visits ∧
    r.record Shared.handler = ⟨.get k key, .ok (some live)⟩ ∧ v.state = r.left Shared.handler ∧
    v.Replaces k key live o
  create : ∀ k space o, v.call = .create k space o → ∀ k' key x, v.state.found.object? k' key = some x →
    (v.left Shared.handler).store.object? k' key = some x
  failed : v.call.isRead = false → ¬ v.Succeeds Shared.handler →
    (∀ k, (v.left Shared.handler).store.table k = v.state.found.table k) ∧ ∃ e, result = .error e

/-- Whatever others do before a pass and between its calls, none of the calls loses what they wrote. -/
theorem no_lost_update (history : List Step) (others : List (List Step)) (key : Key) :
    let start : Shared := ⟨(∅ : MemoryStore).after history, others⟩
    let visits := (pass key).run.visits Shared.handler start
    ∀ v ∈ visits, v.Careful visits ((pass key).run.run Shared.handler start).value := by
  intro start visits v hv
  -- The calls of the pass are steps like those of others, so that the store is versioned all along.
  have hversioned : v.state.store.Versioned := by
    refine Program.visits_invariant (I := fun s : Shared => s.store.Versioned) (fun s c hs => ?_)
      (versioned_empty.after history) v hv
    exact (hs.after s.turn).step (.call c)
  constructor
  case replace =>
    intro k place o hc
    obtain ⟨r, hr, hstate, h⟩ := grounded_of_write hv (by rw [hc]; rfl)
    rw [hc] at h
    obtain ⟨_, live, hlast, hrev⟩ := h
    have hread := Option.some.inj hlast
    have hlive := Shared.object?_of_read hread
    rw [← hstate] at hlive
    exact ⟨r, live, hr, hread, hstate, Shared.replaces hversioned hlive hrev hc⟩
  case create =>
    intro k space o hc k' key' x hx
    obtain ⟨s, c⟩ := v
    subst hc
    exact object?_create hx
  case failed =>
    intro hw hf
    exact ⟨Shared.table_of_failed hf, error_of_failed_write hv hw hf⟩

def sampleHistory : List Step :=
  [.insert sampleServer,
    .call (.create .deployment sampleServer.space
      { metadata := { name := sampleServer.metadata.name }, spec := some { replicas := some 5 } })]

def sampleRace (others : List (List Step)) : Shared := ⟨(∅ : MemoryStore).after sampleHistory, others⟩

def sampleRollout : List (List Step) := [[], [], [.markReady sampleServer.key]]

def sampleRemake : List (List Step) :=
  [[], [], .delete .deployment sampleServer.key :: sampleHistory.tail]

/-- The third call of the pass replaces the Deployment. It keeps what was reported since the read, and is a
conflict if the Deployment was made anew. -/
theorem no_lost_update_sample :
    (∃ v ∈ (pass sampleServer.key).run.visits Shared.handler (sampleRace sampleRollout), ∃ live o,
      v.Succeeds Shared.handler ∧ v.Replaces .deployment sampleServer.key live o) ∧
    ∃ e, ((pass sampleServer.key).run.run Shared.handler (sampleRace sampleRemake)).value = .error e := by
  constructor
  · have hv := List.getElem_mem (l := (pass sampleServer.key).run.visits Shared.handler (sampleRace sampleRollout))
      (n := 2) (by decide)
    obtain ⟨_, live, _, _, _, h⟩ :=
      (no_lost_update sampleHistory sampleRollout sampleServer.key _ hv).replace _ _ _ rfl
    exact ⟨_, hv, live, _, by decide, h⟩
  · have hv := List.getElem_mem (l := (pass sampleServer.key).run.visits Shared.handler (sampleRace sampleRemake))
      (n := 2) (by decide)
    have hcareful := no_lost_update sampleHistory sampleRemake sampleServer.key _ hv
    obtain ⟨_, _, _, _, _, h⟩ := hcareful.replace _ _ _ rfl
    exact (hcareful.failed rfl (h.conflict (.inl ⟨rfl, rfl⟩))).2

end ServerOperator
