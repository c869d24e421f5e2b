import Mathlib.Logic.Function.Basic
import ServerOperator.Proofs.Lockstep
import ServerOperator.Proofs.Sharing

/-!
# Passes for different servers

Passes for several keys take turns on one store, call by call, in any order. A call of one of them touches no
object at another key, so that each runs in step with itself on a store where it is alone.
-/

namespace ServerOperator

open MemoryStore (Alike handler)

/-! ## One call at a time -/

namespace Program

variable {α σ : Type}

def pending? : Program α → Option Call
  | done _ => none
  | call c _ => some c
  | count _ next => next.pending?

def advance (handler : Handler σ) : Program α → σ → Program α × σ
  | done a, s => (done a, s)
  | call c next, s => (next (handler s c).1, (handler s c).2)
  | count _ next, s => next.advance handler s

def value? : Program α → Option α
  | done a => some a
  | call .. => none
  | count _ next => next.value?

section
variable (handler : Handler σ)

theorem advance_state (p : Program α) (s : σ) :
    (p.advance handler s).2 = p.pending?.elim s fun c => (handler s c).2 := by
  induction p with
  | done a => rfl
  | call c next _ => rfl
  | count c next ih => exact ih

theorem run_advance (p : Program α) (s : σ) :
    ((p.advance handler s).1.run handler (p.advance handler s).2).value = (p.run handler s).value ∧
      ((p.advance handler s).1.run handler (p.advance handler s).2).state = (p.run handler s).state := by
  induction p with
  | done a => exact ⟨rfl, rfl⟩
  | call c next _ => exact ⟨rfl, rfl⟩
  | count c next ih => exact ih

theorem run_of_value? {p : Program α} {a : α} (h : p.value? = some a) (s : σ) :
    (p.run handler s).value = a ∧ (p.run handler s).state = s ∧ p.calls handler s = [] := by
  induction p with
  | done b =>
    cases h
    exact ⟨rfl, rfl, rfl⟩
  | call c next _ => cases h
  | count c next ih => exact ih h

theorem calls_advance (p : Program α) (s : σ) :
    (p.advance handler s).1.calls handler (p.advance handler s).2 = (p.calls handler s).tail := by
  induction p with
  | done a => rfl
  | call c next _ => rfl
  | count c next ih => exact ih

theorem pending?_eq (p : Program α) (s : σ) : p.pending? = ((p.calls handler s).map (·.call)).head? := by
  induction p with
  | done a => rfl
  | call c next _ => rfl
  | count c next ih => exact ih

theorem value?_of_calls_eq_nil {p : Program α} {s : σ} (h : p.calls handler s = []) :
    p.value? = some (p.run handler s).value := by
  induction p with
  | done a => rfl
  | call c next _ => cases h
  | count c next ih => exact ih h

end

end Program

/-! ## Calls at a key -/

namespace Call

def IsAt (key : Key) : Call → Prop
  | get _ place => place = key
  | create k space o => space = key.space ∧ (k.metadata o).name = some key.name
  | replace _ place _ => place = key
  | patchStatus place _ => place = key

def unversioned : Call → Call
  | get k key => get k key
  | create k space o => create k space (k.unversioned o)
  | replace k key o => replace k key (k.unversioned o)
  | patchStatus key status => patchStatus key status

theorem IsAt.place {key place : Key} {c : Call} {k : Kind} (h : c.IsAt key) (hp : c.place? = some (k, place)) :
    place = key := by
  cases c with
  | get => cases hp
  | create k' space o =>
    obtain ⟨rfl, hn⟩ := h
    simp only [place?, hn, Option.map_some, Option.some.injEq, Prod.mk.injEq] at hp
    exact hp.2.symm
  | replace k' place' o =>
    cases hp
    exact h
  | patchStatus place' status =>
    cases hp
    exact h

end Call

namespace MemoryStore

theorem Reliable.handler {s : MemoryStore} (hs : s.Reliable) (c : Call) : (handler s c).2.Reliable :=
  hs.run (Program.perform c)

theorem object?_handler_ne {key key' : Key} {c : Call} (hc : c.IsAt key) (hne : key' ≠ key) (s : MemoryStore)
    (k : Kind) : (handler s c).2.object? k key' = s.object? k key' := by
  rcases handler_cases s c with ⟨_, h⟩ | ⟨k₀, place, hplace, _, h⟩
  · exact h.object? k key'
  · exact h.frame k key' (.inr (hc.place hplace ▸ hne))

theorem get_of_reliable {s : MemoryStore} (hs : s.Reliable) (k : Kind) (key : Key) :
    MemoryStore.handler s (.get k key) = (.ok (s.object? k key), s) := by
  simp only [MemoryStore.handler, get, permit_of_reliable hs]

section
variable {s : MemoryStore} (hs : s.Reliable) {k : Kind} {key : Key}
include hs

theorem create_of_reliable {o : k.Object} (hn : (k.metadata o).name = some key.name) (hfree : s.object? k key = none) :
    ∃ a t, MemoryStore.handler s (.create k key.space o) = (.ok a, t) ∧
      Alike t (s.written .create k key (k.inSpace o key.space)) := by
  rcases create_cases s k hn hfree with ⟨hp, _⟩ | ⟨_, h⟩
  · exact absurd (hs.permits _ _) hp
  · exact h

theorem replace_of_reliable {o live : k.Object} (hlive : s.object? k key = some live)
    (hv : (k.metadata o).resourceVersion = (k.metadata live).resourceVersion) :
    ∃ a t, MemoryStore.handler s (.replace k key o) = (.ok a, t) ∧
      Alike t (s.written .replace k key (retain k live o)) := by
  rcases replace_cases s k hlive hv with ⟨hp, _⟩ | ⟨_, h⟩
  · exact absurd (hs.permits _ _) hp
  · exact h

theorem patchStatus_of_reliable {live : Server} (hlive : s.object? .server key = some live) (status : ServerStatus) :
    ∃ t, MemoryStore.handler s (.patchStatus key status) = (.ok (), t) ∧ Alike t (s.patched key live status) := by
  rcases patchStatus_cases s hlive status with ⟨hp, _⟩ | ⟨_, h⟩
  · exact absurd (hs.permits _ _) hp
  · exact h

end

end MemoryStore

/-! ## Stores that agree at a key -/

/-- Two reliable stores hold the same at a key, but for versions, and what was seen there last is still there. -/
structure Agree (key : Key) (seen : Option Sight) (s t : MemoryStore) : Prop where
  left : s.Reliable
  right : t.Reliable
  objects : ∀ k : Kind, k.SameAt key (s.object? k key) (t.object? k key)
  seen : ∀ x ∈ seen, s.object? x.kind key = x.left ∧ t.object? x.kind key = x.right

section
variable {key : Key} {seen : Option Sight} {s t u v : MemoryStore}

theorem Agree.stored (h : Agree key seen s t) (hu : u.Reliable) (hv : v.Reliable) {k : Kind} {o o' : k.Object}
    (ho : u.object? k key = some o) (ho' : v.object? k key = some o') (home : k.AtHome key o)
    (hsame : k.unversioned o = k.unversioned o') (hframe : ∀ k', k' ≠ k →
      u.object? k' key = s.object? k' key ∧ v.object? k' key = t.object? k' key) : Agree key none u v := by
  refine ⟨hu, hv, fun k' => ?_, fun x hx => absurd hx (Option.not_mem_none x)⟩
  by_cases hk : k' = k
  · subst hk
    rw [ho, ho']
    exact .of_unversioned home hsame
  · rw [(hframe k' hk).1, (hframe k' hk).2]
    exact h.objects k'

theorem Agree.written (h : Agree key seen s t) (hu : u.Reliable) (hv : v.Reliable) {k : Kind} {o o' : k.Object}
    {op : Operation} (hsu : Alike u (s.written op k key o)) (htv : Alike v (t.written op k key o'))
    (home : k.AtHome key o) (hsame : k.unversioned o = k.unversioned o') : Agree key none u v := by
  have hobject {s u : MemoryStore} {o : k.Object} (h : Alike u (s.written op k key o)) :
      ∃ v, u.object? k key = some (k.withVersion o v) := ⟨_, (h.object? ..).trans (MemoryStore.object?_written ..)⟩
  obtain ⟨n, hn⟩ := hobject hsu
  obtain ⟨n', hn'⟩ := hobject htv
  refine h.stored hu hv hn hn' ((Kind.atHome_withVersion n).mpr home) ?_ fun k' hk => ⟨?_, ?_⟩
  · rw [Kind.unversioned_withVersion, Kind.unversioned_withVersion, hsame]
  · rw [hsu.object?, MemoryStore.object?_written_ne _ _ _ _ _ (.inl hk)]
  · rw [htv.object?, MemoryStore.object?_written_ne _ _ _ _ _ (.inl hk)]

end

namespace Program.InStep

variable {α : Type} {key : Key} {seen : Option Sight} {p q : Program α} {s t : MemoryStore}

theorem value?_eq (h : InStep key seen p q) : p.value? = q.value? := by
  induction h with
  | done | get | create | replace | patchStatus => rfl
  | count c _ ih => exact ih

theorem pending (h : InStep key seen p q) : p.pending?.map Call.unversioned = q.pending?.map Call.unversioned ∧
    ∀ c ∈ p.pending?, c.IsAt key := by
  induction h with
  | done a => exact ⟨rfl, fun c hc => absurd hc (Option.not_mem_none c)⟩
  | count c _ ih => exact ih
  | get k _ =>
    refine ⟨rfl, fun c hc => ?_⟩
    cases hc
    rfl
  | create name _ _ =>
    refine ⟨rfl, fun c hc => ?_⟩
    cases hc
    exact ⟨rfl, name⟩
  | @replace k live o v _ _ p q _ =>
    refine ⟨?_, fun c hc => ?_⟩
    · simp [pending?, Call.unversioned]
    · cases hc
      rfl
  | patchStatus status _ =>
    refine ⟨rfl, fun c hc => ?_⟩
    cases hc
    rfl

theorem advance (h : InStep key seen p q) (hst : Agree key seen s t) : ∃ seen',
    InStep key seen' (p.advance handler s).1 (q.advance handler t).1 ∧
      Agree key seen' (p.advance handler s).2 (q.advance handler t).2 := by
  induction h with
  | done a => exact ⟨_, .done a, hst⟩
  | count c _ ih => exact ih hst
  | get k rest =>
    simp only [Program.advance, MemoryStore.get_of_reliable hst.left, MemoryStore.get_of_reliable hst.right]
    refine ⟨_, rest _ _ (hst.objects k), hst.left, hst.right, hst.objects, fun x hx => ?_⟩
    cases hx
    exact ⟨rfl, rfl⟩
  | @create k o name hk p q rest =>
    -- What was seen is still there, so that the call meets in both stores what its program expects.
    obtain ⟨hl, hr⟩ := hst.seen _ rfl
    obtain ⟨a, u, hu, hsu⟩ := MemoryStore.create_of_reliable hst.left name hl
    obtain ⟨b, v, hv, htv⟩ := MemoryStore.create_of_reliable hst.right name hr
    have home : k.AtHome key (k.inSpace o key.space) := by cases k <;> trivial
    have hagree := hst.written (hst.left.handler (.create k key.space o)) (hst.right.handler (.create k key.space o))
      (by rw [hu]; exact hsu) (by rw [hv]; exact htv) home rfl
    simp only [Program.advance, hu, hv] at hagree ⊢
    exact ⟨none, rest a b, hagree⟩
  | @replace k live o n home version p q rest =>
    obtain ⟨hl, hr⟩ := hst.seen _ rfl
    have version' : (k.metadata (k.withVersion o n)).resourceVersion =
        (k.metadata (k.withVersion live n)).resourceVersion := by
      cases k <;> rfl
    obtain ⟨a, u, hu, hsu⟩ := MemoryStore.replace_of_reliable hst.left hl version
    obtain ⟨b, v, hv, htv⟩ := MemoryStore.replace_of_reliable hst.right hr version'
    have home' : k.AtHome key (MemoryStore.retain k live o) := by
      cases k <;> exact home
    have hsame : k.unversioned (MemoryStore.retain k live o) =
        k.unversioned (MemoryStore.retain k (k.withVersion live n) (k.withVersion o n)) := by
      cases k <;> rfl
    have hagree := hst.written (hst.left.handler (.replace k key o)) (hst.right.handler (.replace k key _))
      (by rw [hu]; exact hsu) (by rw [hv]; exact htv) home' hsame
    simp only [Program.advance, hu, hv] at hagree ⊢
    exact ⟨none, rest a b, hagree⟩
  | @patchStatus live live' status p q rest =>
    have hl : s.object? .server key = some live := (hst.seen _ rfl).1
    have hr : t.object? .server key = some live' := (hst.seen _ rfl).2
    obtain ⟨u, hu, hsu⟩ := MemoryStore.patchStatus_of_reliable hst.left hl status
    obtain ⟨v, hv, htv⟩ := MemoryStore.patchStatus_of_reliable hst.right hr status
    have hul : u.Reliable := by simpa only [hu] using hst.left.handler (.patchStatus key status)
    have hvr : v.Reliable := by simpa only [hv] using hst.right.handler (.patchStatus key status)
    have hserver : Kind.server.SameAt key (some live) (some live') := hl ▸ hr ▸ hst.objects .server
    have hagree : Agree key none u v := by
      cases hserver with
      | found home n =>
        refine hst.stored hul hvr ((hsu.object? ..).trans (MemoryStore.object?_patched ..))
          ((htv.object? ..).trans (MemoryStore.object?_patched ..)) home rfl fun k' hk => ⟨?_, ?_⟩
        · rw [hsu.object?, MemoryStore.object?_patched_ne _ _ _ _ (.inl hk)]
        · rw [htv.object?, MemoryStore.object?_patched_ne _ _ _ _ (.inl hk)]
    simp only [Program.advance, hu, hv]
    exact ⟨none, rest, hagree⟩

end Program.InStep

/-! ## Workers -/

/-- Programs that take turns on one store, each of them for a key, and the calls that each has made so far. -/
structure Workers (α : Type) where
  store : MemoryStore
  left : Key → Program α
  made : Key → List Call

namespace Workers

variable {α : Type}

def step (w : Workers α) (key : Key) : Workers α where
  store := ((w.left key).advance handler w.store).2
  left := Function.update w.left key ((w.left key).advance handler w.store).1
  made := Function.update w.made key (w.made key ++ (w.left key).pending?.toList)

def after (w : Workers α) (turns : List Key) : Workers α := turns.foldl step w

variable {key key' : Key} {v w : Workers α}

theorem left_step (w : Workers α) (key : Key) : (w.step key).left key = ((w.left key).advance handler w.store).1 :=
  Function.update_self ..

theorem made_step (w : Workers α) (key : Key) :
    (w.step key).made key = w.made key ++ (w.left key).pending?.toList :=
  Function.update_self ..

theorem store_step (w : Workers α) (key : Key) :
    (w.step key).store = (w.left key).pending?.elim w.store fun c => (handler w.store c).2 :=
  Program.advance_state handler (w.left key) w.store

/-- The call of a turn is the first of those that were left to make. -/
theorem calls_step (w : Workers α) (key : Key) :
    ((w.step key).left key).calls handler (w.step key).store = ((w.left key).calls handler w.store).tail := by
  rw [left_step]
  exact Program.calls_advance handler (w.left key) w.store

theorem reliable_step (hw : w.store.Reliable) (key : Key) : (w.step key).store.Reliable := by
  rw [store_step]
  cases (w.left key).pending? with
  | none => exact hw
  | some c => exact hw.handler c

theorem object?_step_ne (hat : ∀ c ∈ (w.left key').pending?, c.IsAt key') (hne : key ≠ key') (k : Kind) :
    (w.step key').store.object? k key = w.store.object? k key := by
  rw [store_step]
  cases hc : (w.left key').pending? with
  | none => rfl
  | some c => exact MemoryStore.object?_handler_ne (hat c hc) hne w.store k

structure Match (key : Key) (v w : Workers α) : Prop where
  inStep : ∃ seen, Program.InStep key seen (v.left key) (w.left key) ∧ Agree key seen v.store w.store
  made : (v.made key).map Call.unversioned = (w.made key).map Call.unversioned
  place : ∀ c ∈ v.made key, c.IsAt key

theorem Match.pending (h : Match key v w) : ∀ c ∈ (v.left key).pending?, c.IsAt key := by
  obtain ⟨_, hstep, _⟩ := h.inStep
  exact hstep.pending.2

theorem Match.step (h : Match key v w) : Match key (v.step key) (w.step key) := by
  obtain ⟨⟨seen, hstep, hagree⟩, hmade, hplace⟩ := h
  obtain ⟨hcall, hat⟩ := hstep.pending
  constructor
  case inStep =>
    rw [left_step, left_step]
    exact hstep.advance hagree
  case made =>
    have hlast : (v.left key).pending?.toList.map Call.unversioned =
        (w.left key).pending?.toList.map Call.unversioned := by
      rw [← Option.toList_map, ← Option.toList_map, hcall]
    rw [made_step, made_step, List.map_append, List.map_append, hmade, hlast]
  case place =>
    intro c hc
    rw [made_step, List.mem_append, Option.mem_toList] at hc
    exact hc.elim (hplace c) (hat c)

theorem Match.step_ne (h : Match key v w) (hat : ∀ c ∈ (v.left key').pending?, c.IsAt key') (hne : key ≠ key') :
    Match key (v.step key') w := by
  obtain ⟨⟨seen, hstep, hagree⟩, hmade, hplace⟩ := h
  have hobject (k : Kind) := object?_step_ne hat hne k
  have hleft : (v.step key').left key = v.left key := Function.update_of_ne hne ..
  have hmade' : (v.step key').made key = v.made key := Function.update_of_ne hne ..
  constructor
  case inStep =>
    rw [hleft]
    refine ⟨seen, hstep, reliable_step hagree.left key', hagree.right, fun k => ?_, fun x hx => ?_⟩
    · rw [hobject]
      exact hagree.objects k
    · rw [hobject]
      exact hagree.seen x hx
  case made => rw [hmade', hmade]
  case place =>
    rw [hmade']
    exact hplace

/-- Each key is matched by workers of its own, in which only it takes turns. -/
theorem Match.after {turns : List Key} {P : Key → Prop} (hturns : ∀ key ∈ turns, P key) : ∀ {v : Workers α}
    {w : Key → Workers α}, (∀ key, P key → Match key v (w key)) →
      ∀ key, P key → Match key (v.after turns) ((w key).after (.replicate (turns.count key) key)) := by
  induction turns with
  | nil => exact fun h => h
  | cons key₀ turns ih =>
    intro v w h key hkey
    have h₀ := h key₀ (hturns key₀ (List.mem_cons_self ..))
    -- The key's own workers take the turn too; for those of every other key it is a turn elsewhere.
    have hrest := ih (fun key hk => hturns key (List.mem_cons_of_mem _ hk)) (v := v.step key₀)
      (w := Function.update w key₀ ((w key₀).step key₀)) (fun key hkey => by
        by_cases e : key = key₀
        · subst e
          rw [Function.update_self]
          exact h₀.step
        · rw [Function.update_of_ne e]
          exact (h key hkey).step_ne h₀.pending e) key hkey
    by_cases e : key = key₀
    · subst e
      rw [Function.update_self] at hrest
      rw [List.count_cons_self, List.replicate_succ]
      exact hrest
    · rw [Function.update_of_ne e] at hrest
      rw [List.count_cons_of_ne (Ne.symm e)]
      exact hrest

/-! ### One worker alone -/

section
variable (key : Key) (n : Nat) (w : Workers α)

theorem run_alone : (((w.after (.replicate n key)).left key).run handler (w.after (.replicate n key)).store).value =
      ((w.left key).run handler w.store).value ∧
    (((w.after (.replicate n key)).left key).run handler (w.after (.replicate n key)).store).state =
      ((w.left key).run handler w.store).state := by
  induction n generalizing w with
  | zero => exact ⟨rfl, rfl⟩
  | succ n ih =>
    obtain ⟨hvalue, hstate⟩ := Program.run_advance handler (w.left key) w.store
    have hrest := ih (w.step key)
    rw [left_step] at hrest
    exact ⟨hrest.1.trans hvalue, hrest.2.trans hstate⟩

theorem calls_alone : ((w.after (.replicate n key)).left key).calls handler (w.after (.replicate n key)).store =
    ((w.left key).calls handler w.store).drop n := by
  induction n generalizing w with
  | zero => rfl
  | succ n ih =>
    have hrest := ih (w.step key)
    rw [calls_step, List.drop_tail] at hrest
    exact hrest

theorem made_alone : (w.after (.replicate n key)).made key =
    w.made key ++ (((w.left key).calls handler w.store).take n).map (·.call) := by
  induction n generalizing w with
  | zero => simp [after]
  | succ n ih =>
    have hrest := ih (w.step key)
    rw [calls_step, made_step, Program.pending?_eq handler _ w.store] at hrest
    refine hrest.trans ?_
    cases (w.left key).calls handler w.store <;> simp

theorem isSome_value?_alone (h : ((w.left key).calls handler w.store).length ≤ n) :
    ((w.after (.replicate n key)).left key).value?.isSome := by
  have hcalls := calls_alone key n w
  rw [List.drop_eq_nil_of_le h] at hcalls
  rw [Program.value?_of_calls_eq_nil handler hcalls]
  rfl

theorem ended_alone {a : α} (h : ((w.after (.replicate n key)).left key).value? = some a) :
    a = ((w.left key).run handler w.store).value ∧
      (w.after (.replicate n key)).store = ((w.left key).run handler w.store).state ∧
      (w.after (.replicate n key)).made key =
        w.made key ++ ((w.left key).calls handler w.store).map (·.call) := by
  obtain ⟨hvalue, hstate⟩ := run_alone key n w
  obtain ⟨hv, hs, hc⟩ := Program.run_of_value? handler h (w.after (.replicate n key)).store
  have hall : ((w.left key).calls handler w.store).length ≤ n :=
    List.drop_eq_nil_iff.mp ((calls_alone key n w).symm.trans hc)
  refine ⟨hv.symm.trans hvalue, hs.symm.trans hstate, ?_⟩
  rw [made_alone, List.take_of_length_le hall]

end

end Workers

/-! ## Passes that take turns -/

def passes (key : Key) : Nat → Program (List (Except OperatorError Outcome))
  | 0 => return []
  | n + 1 => do
    let r ← (pass key).run
    let rs ← passes key n
    return r :: rs

theorem passes_inStep (key : Key) (n : Nat) {seen : Option Sight} :
    Program.InStep key seen (passes key n) (passes key n) := by
  induction n generalizing seen with
  | zero => exact .done []
  | succ n ih => exact (pass_inStep key).bind fun r _ => ih.bind fun rs _ => .done (r :: rs)

def MemoryStore.HoldsAtHome (s : MemoryStore) (key : Key) : Prop := ∀ srv ∈ s.object? .server key, Server.key srv = key

theorem Agree.refl {key : Key} {s : MemoryStore} (hs : s.Reliable) (hhome : s.HoldsAtHome key) :
    Agree key none s s := by
  refine ⟨hs, hs, fun k => ?_, fun x hx => absurd hx (Option.not_mem_none x)⟩
  cases ho : s.object? k key with
  | none => exact .missing
  | some o =>
    refine .of_unversioned ?_ rfl
    cases k with
    | server => exact hhome o ho
    | deployment | service | ingress => trivial

namespace Workers

def start (s : MemoryStore) (n : Key → Nat) : Workers (List (Except OperatorError Outcome)) where
  store := s
  left key := passes key (n key)
  made _ := []

/-- Seen from a key, the two have come to the same: the values of its programs, the calls it has made, all of them
for objects at the key, and the objects there. -/
structure SameFor {α : Type} (key : Key) (v w : Workers α) : Prop where
  value : (v.left key).value? = (w.left key).value?
  calls : (v.made key).map Call.unversioned = (w.made key).map Call.unversioned
  place : ∀ c ∈ v.made key, c.IsAt key
  objects : ∀ k : Kind, (v.store.object? k key).map k.unversioned = (w.store.object? k key).map k.unversioned

theorem Match.sameFor {α : Type} {key : Key} {v w : Workers α} (h : Match key v w) : SameFor key v w := by
  obtain ⟨⟨seen, hstep, hagree⟩, hmade, hplace⟩ := h
  exact ⟨hstep.value?_eq, hmade, hplace, fun k => (hagree.objects k).unversioned_eq⟩

section
variable {s : MemoryStore} (hs : s.Reliable) {turns : List Key} (hturns : ∀ key ∈ turns, s.HoldsAtHome key)
  (n : Key → Nat) {key : Key}
include hs hturns

theorem match_alone (hhome : s.HoldsAtHome key) :
    Match key ((start s n).after turns) ((start s n).after (.replicate (turns.count key) key)) :=
  Match.after hturns (v := start s n) (w := fun _ => start s n)
    (fun key hkey => ⟨⟨none, passes_inStep key (n key), .refl hs hkey⟩, rfl, fun _ hc => nomatch hc⟩) key hhome

theorem object?_turn_ne {key' : Key} {before rest : List Key} (h : turns = before ++ key' :: rest) (hne : key ≠ key')
    (k : Kind) : ((start s n).after (before ++ [key'])).store.object? k key =
      ((start s n).after before).store.object? k key := by
  have hhome' : s.HoldsAtHome key' := hturns key' (by simp [h])
  have hbefore : ∀ key ∈ before, s.HoldsAtHome key := fun key hk => hturns key (by simp [h, hk])
  rw [after, List.foldl_append]
  exact object?_step_ne (match_alone hs hbefore n hhome').pending hne k

end

end Workers

/-- Passes for different servers do not interfere. Whatever turns the passes for some keys take on one reliable store
that has each server at its own key, those for one key return and call what they do alone, and leave the same objects
at the key, but for versions; and no turn for a key changes an object at another one. -/
theorem passes_do_not_interfere {s : MemoryStore} (hs : s.Reliable) {turns : List Key}
    (hturns : ∀ key ∈ turns, s.HoldsAtHome key) (n : Key → Nat) {key : Key} (hhome : s.HoldsAtHome key) :
    let start := Workers.start s n
    let together := start.after turns
    let whole := (passes key (n key)).run handler s
    let calls := (passes key (n key)).calls handler s
    together.SameFor key (start.after (.replicate (turns.count key) key)) ∧
      (calls.length ≤ turns.count key → (together.left key).value?.isSome) ∧
      (∀ rs ∈ (together.left key).value?, rs = whole.value ∧
        (together.made key).map Call.unversioned = calls.map (·.call.unversioned) ∧
        ∀ k : Kind, (together.store.object? k key).map k.unversioned = (whole.state.object? k key).map k.unversioned) ∧
      ∀ before key' rest, turns = before ++ key' :: rest → key ≠ key' → ∀ k : Kind,
        (start.after (before ++ [key'])).store.object? k key = (start.after before).store.object? k key := by
  intro start together whole calls
  have hsame := (Workers.match_alone hs hturns n hhome).sameFor
  refine ⟨hsame, fun hlong => ?_, fun rs hrs => ?_, fun before key' rest h hne k =>
    Workers.object?_turn_ne hs hturns n h hne k⟩
  · rw [hsame.value]
    exact start.isSome_value?_alone key _ hlong
  · rw [hsame.value] at hrs
    obtain ⟨hvalue, hstore, hmade⟩ := start.ended_alone key _ hrs
    refine ⟨hvalue, ?_, fun k => ?_⟩
    · have hcalls : start.made key ++ ((start.left key).calls handler start.store).map (·.call) =
          calls.map (·.call) := List.nil_append _
      rw [hsame.calls, hmade, hcalls, List.map_map]
      rfl
    · rw [hsame.objects, hstore]
      rfl

def docsServer : Server where
  metadata := { name := some "search", ns := some "docs", uid := some "c218", generation := some 1,
                resourceVersion := some "3" }
  spec := { image := "docs" }

def sharedStore : MemoryStore := { sampleStore.put .server docsServer.key docsServer with version := 3 }

/-- In the sample, one server is repaired while the other one's defaults are filled in and it is then settled. -/
theorem passes_do_not_interfere_sample :
    let turns := (List.replicate 16 [docsServer.key, sampleServer.key]).flatten
    let together := (Workers.start sharedStore fun _ => 2).after turns
    (together.left docsServer.key).value? = some [.ok .requeueNow, .ok .done] ∧
      ∀ k : Kind, (together.store.object? k docsServer.key).map k.unversioned =
        (((passes docsServer.key 2).run handler sharedStore).state.object? k docsServer.key).map k.unversioned := by
  intro turns together
  have hs : sharedStore.Reliable := MemoryStore.reliable_clearFailures sharedStore
  have hsample : sharedStore.HoldsAtHome sampleServer.key := fun srv h => by cases h; rfl
  have hdocs : sharedStore.HoldsAtHome docsServer.key := fun srv h => by cases h; rfl
  have hturns : ∀ key ∈ turns, sharedStore.HoldsAtHome key := by
    intro key hkey
    obtain ⟨pair, hpair, hkey⟩ := List.mem_flatten.mp hkey
    rw [List.eq_of_mem_replicate hpair] at hkey
    simp only [List.mem_cons, List.not_mem_nil, or_false] at hkey
    rcases hkey with rfl | rfl
    · exact hdocs
    · exact hsample
  have hvalue : (together.left docsServer.key).value? = some [.ok .requeueNow, .ok .done] := rfl
  obtain ⟨_, _, hended, _⟩ := passes_do_not_interfere hs hturns (fun _ => 2) hdocs
  exact ⟨hvalue, (hended _ hvalue).2.2⟩

end ServerOperator
