import Mathlib.Data.Nat.Fib.Basic
import ServerOperator.Proofs.Streaks

/-!
# Dates of retries

A retry needs a date, and there are dates for the delays of a server exactly as long as there is one for its longest.
The delays are Fibonacci numbers times the least one until they meet the greatest, so the greatest is the longest, and
a server that only fails comes to it: a valid configuration whose greatest delay is too great has no date for some
retry of each of its servers.
-/

namespace ServerOperator

/-! ## Delays in closed form -/

namespace Backoff

theorem toNat_saturatingAdd (a b : UInt64) :
    (saturatingAdd a b).toNat = Min.min (a.toNat + b.toNat) (UInt64.size - 1) := by
  unfold saturatingAdd
  split
  · next h =>
    rw [UInt64.toNat_add, Nat.mod_eq_of_lt h]
    omega
  · next h =>
    rw [UInt64.toNat_ofNat_of_lt' (by decide)]
    omega

theorem toNat_min (a b : UInt64) : (Min.min a b).toNat = Min.min a.toNat b.toNat := by
  rw [Std.min_eq_if, Std.min_eq_if]
  by_cases h : a ≤ b
  · rw [if_pos h, if_pos (UInt64.le_iff_toNat_le.mp h)]
  · rw [if_neg h, if_neg (mt UInt64.le_iff_toNat_le.mpr h)]

/-- The two delays held are neighbours in the Fibonacci numbers, times the least delay, and cut at the greatest: it is
far below the bound at which sums saturate. -/
theorem after_start (least greatest : UInt64) (n : Nat) :
    ((start least greatest).after n).previous.toNat =
        Min.min (Nat.fib n * (Min.min least greatest).toNat) greatest.toNat ∧
      ((start least greatest).after n).current.toNat =
        Min.min (Nat.fib (n + 1) * (Min.min least greatest).toNat) greatest.toNat := by
  induction n with
  | zero =>
    have hle : (Min.min least greatest).toNat ≤ greatest.toNat := UInt64.le_iff_toNat_le.mp Std.min_le_right
    constructor
    · simp [after, start]
    · simpa [after, start] using hle
  | succ n ih =>
    obtain ⟨hprevious, hcurrent⟩ := ih
    refine ⟨hcurrent, ?_⟩
    have hmax := (current_after_start least greatest n).2
    show (Min.min (saturatingAdd _ _) _).toNat = _
    rw [toNat_min, toNat_saturatingAdd, hprevious, hcurrent, hmax, Nat.fib_add_two, Nat.add_mul]
    have hlt := greatest.toNat_lt_size
    omega

/-- A delay that is cut at the greatest is reached at the latest when the Fibonacci number alone is as great. -/
theorem current_after_greatest {least : UInt64} (greatest : UInt64) (hleast : least ≠ 0) :
    ((start least greatest).after greatest.toNat).current = greatest := by
  refine UInt64.toNat_inj.mp ?_
  rw [(after_start least greatest greatest.toNat).2]
  have hpos : 0 < least.toNat := Nat.pos_of_ne_zero fun h => hleast (UInt64.toNat_inj.mp h)
  have hfib : greatest.toNat ≤ Nat.fib (greatest.toNat + 1) := by
    have := Nat.le_fib_add_one (greatest.toNat + 1)
    omega
  rw [toNat_min]
  have hmul : Nat.fib (greatest.toNat + 1) * 1 ≤ Nat.fib (greatest.toNat + 1) * least.toNat :=
    Nat.mul_le_mul_left _ hpos
  obtain h | h := Nat.le_total least.toNat greatest.toNat
  · rw [Nat.min_eq_left h]
    omega
  · rw [Nat.min_eq_right h]
    refine Nat.min_eq_right ?_
    exact Nat.le_mul_of_pos_left _ (Nat.fib_pos.mpr (Nat.succ_pos _))

end Backoff

theorem Config.bounds_of_validate {config : Config} (h : config.validate = .ok ()) :
    config.backoffMinSecs ≠ 0 ∧ config.backoffMinSecs ≤ config.backoffMaxSecs := by
  unfold validate at h
  split at h
  · cases h
  · next hzero =>
    split at h
    · cases h
    · next hlt => exact ⟨hzero, UInt64.not_lt.mp hlt⟩

namespace Controller

variable {σ : Type} {start c : Controller σ} {past : List Mark}

/-! ## All that can happen -/

/-- What can become of a controller, with what happened to its servers, the last first: passes and looks at failures in
any order, on stores that answer as they like, at any time. -/
inductive Timeline (start : Controller σ) : List Mark → Controller σ → Prop where
  | start : Timeline start [] start
  | change {past : List Mark} {c : Controller σ} (h : Timeline start past c) (store : σ) :
    Timeline start past { c with store }
  | pass {past : List Mark} {c : Controller σ} (h : Timeline start past c) (handler : Program.Handler σ) (server : Server)
    (seconds : Float) :
    Timeline start (.pass server.key (c.reconcile handler server seconds).1.isOk :: past)
      (c.reconcile handler server seconds).2
  | retry {past : List Mark} {c : Controller σ} (h : Timeline start past c) (key : Key) (now : Timestamp) :
    Timeline start (.retry key :: past) (c.retry key now).2

/-- The delays taken under a text since a pass under it succeeded. -/
def taken (text : String) : List Mark → Nat
  | [] => 0
  | .pass key succeeded :: past => if succeeded ∧ key.text = text then 0 else taken text past
  | .retry key :: past => taken text past + if key.text = text then 1 else 0

structure Tracks (start : Controller σ) (past : List Mark) (c : Controller σ) : Prop where
  config : c.config = start.config
  backoff : ∀ key : Key, (c.streak key).backoff =
    (Backoff.start start.config.backoffMinSecs start.config.backoffMaxSecs).after (taken key.text past)

theorem Tracks.pass (h : Tracks start past c) (handler : Program.Handler σ) (server : Server) (seconds : Float) :
    Tracks start (.pass server.key (c.reconcile handler server seconds).1.isOk :: past)
      (c.reconcile handler server seconds).2 where
  config := (c.reconcile_config ..).trans h.config
  backoff := by
    intro key
    have hbefore := h.backoff key
    rw [streak_backoff] at hbefore ⊢
    rw [reconcile_config]
    unfold taken
    obtain ⟨hok, hstreaks⟩ | ⟨hok, hstreaks⟩ := c.reconcile_cases handler server seconds
    · rw [hok, hstreaks, Table.get?_erase]
      by_cases htext : server.key.text = key.text
      · simp [htext, h.config, Backoff.after]
      · simp [htext, hbefore]
    · rw [hok, hstreaks]
      simpa using hbefore

theorem Tracks.retry (h : Tracks start past c) (key : Key) (now : Timestamp) :
    Tracks start (.retry key :: past) (c.retry key now).2 where
  config := (c.retry_config ..).trans h.config
  backoff := by
    intro key'
    have hbefore := h.backoff key'
    rw [streak_backoff] at hbefore ⊢
    rw [retry_config, retry_streaks, Table.get?_insert]
    unfold taken
    by_cases htext : key.text = key'.text
    · simp [htext, Backoff.after, h.backoff key]
    · simp [htext, hbefore]

theorem Timeline.tracks (h : start.Timeline past c) (fresh : start.streaks = ∅) : Tracks start past c := by
  induction h with
  | start =>
    refine ⟨rfl, fun key => ?_⟩
    rw [streak_backoff, fresh]
    rfl
  | change h store ih => exact ⟨ih.config, ih.backoff⟩
  | pass h handler server seconds ih => exact ih.pass handler server seconds
  | retry h key now ih => exact ih.retry key now

/-! ## The date of a retry -/

theorem retry_eq (c : Controller σ) (key : Key) (now : Timestamp) : (c.retry key now).1 =
    if (c.streak key).backoff.current.toNat ≤ Timestamp.longestSpan ∧
        now.secs + (c.streak key).backoff.current.toNat ≤ Timestamp.lastSecond then
      some (.ofSecs (c.streak key).backoff.current)
    else none := by
  have htally : (c.tally .reconciliationErrors).streak key = c.streak key := rfl
  unfold retry Backoff.next Timestamp.later?
  dsimp only
  rw [htally]
  by_cases hdate : (c.streak key).backoff.current.toNat ≤ Timestamp.longestSpan ∧
      now.secs + (c.streak key).backoff.current.toNat ≤ Timestamp.lastSecond
  · rw [if_pos hdate, if_pos hdate]
  · rw [if_neg hdate, if_neg hdate]

/-- There is a date after every delay up to the greatest. -/
def Dated (config : Config) (now : Timestamp) : Prop :=
  config.backoffMaxSecs.toNat ≤ Timestamp.longestSpan ∧
    now.secs + config.backoffMaxSecs.toNat ≤ Timestamp.lastSecond

/-! ## A server that only fails -/

def failingRun (key : Key) : Nat → List Mark
  | 0 => [.pass key false]
  | n + 1 => .pass key false :: .retry key :: failingRun key n

theorem taken_failingRun (key : Key) (n : Nat) : taken key.text (failingRun key n) = n := by
  induction n with
  | zero => simp [failingRun, taken]
  | succ n ih => simp [failingRun, taken, ih]

def refused : Program.Handler σ := fun s _ => (.error ⟨"connection refused", []⟩, s)

theorem reconcile_refused (c : Controller σ) (server : Server) :
    (c.reconcile refused server 0).1.isOk = false := rfl

theorem Timeline.fail (h : start.Timeline past c) (server : Server) :
    ∃ c, start.Timeline (.pass server.key false :: past) c := by
  have hpass := h.pass refused server 0
  rw [reconcile_refused] at hpass
  exact ⟨_, hpass⟩

theorem timeline_failingRun (start : Controller σ) (server : Server) (n : Nat) :
    ∃ c, start.Timeline (failingRun server.key n) c := by
  induction n with
  | zero => exact Timeline.start.fail server
  | succ n ih =>
    obtain ⟨c, h⟩ := ih
    exact (h.retry server.key ⟨0, 0⟩).fail server

/-- A server that only fails is given the greatest delay at last. -/
theorem exists_retry_eq_none (fresh : start.streaks = ∅) (hleast : start.config.backoffMinSecs ≠ 0) {now : Timestamp}
    (hnone : ¬ Dated start.config now) (server : Server) :
    ∃ n c, start.Timeline (failingRun server.key n) c ∧ (c.retry server.key now).1 = none := by
  obtain ⟨c, h⟩ := timeline_failingRun start server start.config.backoffMaxSecs.toNat
  refine ⟨_, c, h, ?_⟩
  have hcurrent : (c.streak server.key).backoff.current = start.config.backoffMaxSecs := by
    rw [(h.tracks fresh).backoff, taken_failingRun]
    exact Backoff.current_after_greatest _ hleast
  rw [retry_eq, hcurrent]
  exact if_neg hnone

theorem Tracks.retry_isSome (h : Tracks start past c) {now : Timestamp} (hdated : Dated start.config now) (key : Key) :
    (c.retry key now).1.isSome = true := by
  have hcurrent : (c.streak key).backoff.current.toNat ≤ start.config.backoffMaxSecs.toNat := by
    rw [h.backoff key]
    exact UInt64.le_iff_toNat_le.mp (Backoff.current_after_start ..).1
  obtain ⟨hspan, hlast⟩ := hdated
  rw [retry_eq, if_pos ⟨by omega, by omega⟩]
  rfl

/-- A retry comes after the Fibonacci number of its streak times the least delay, at the most after the greatest one,
unless there is no date then. So at a given time each retry has a date if and only if the greatest delay has one; if it
has none, each server comes to a retry without a date by failing alone. -/
theorem retry_dated_iff (fresh : start.streaks = ∅) (valid : start.config.validate = .ok ()) :
    (∀ past c, start.Timeline past c → ∀ (key : Key) (now : Timestamp), ∃ delay : UInt64,
      delay.toNat = min (Nat.fib (taken key.text past + 1) * start.config.backoffMinSecs.toNat)
          start.config.backoffMaxSecs.toNat ∧
        (c.retry key now).1 =
          if delay.toNat ≤ Timestamp.longestSpan ∧ now.secs + delay.toNat ≤ Timestamp.lastSecond then
            some (.ofSecs delay)
          else none) ∧
      ∀ now : Timestamp,
        (Dated start.config now ↔
          ∀ past c, start.Timeline past c → ∀ key : Key, (c.retry key now).1.isSome = true) ∧
          (¬ Dated start.config now →
            ∀ server : Server, ∃ n c, start.Timeline (failingRun server.key n) c ∧ (c.retry server.key now).1 = none) := by
  obtain ⟨hleast, hle⟩ := Config.bounds_of_validate valid
  refine ⟨fun past c h key now => ?_, fun now => ⟨⟨?_, ?_⟩, exists_retry_eq_none fresh hleast⟩⟩
  · have hmin : (Min.min start.config.backoffMinSecs start.config.backoffMaxSecs).toNat =
        start.config.backoffMinSecs.toNat := by
      rw [Backoff.toNat_min, Nat.min_eq_left (UInt64.le_iff_toNat_le.mp hle)]
    refine ⟨(c.streak key).backoff.current, ?_, c.retry_eq key now⟩
    rw [(h.tracks fresh).backoff key, (Backoff.after_start ..).2, hmin]
  · intro hdated past c h key
    exact (h.tracks fresh).retry_isSome hdated key
  · intro hall
    by_contra hnone
    obtain ⟨n, c, h, hretry⟩ := exists_retry_eq_none fresh hleast hnone default
    have hsome := hall _ c h (default : Server).key
    rw [hretry] at hsome
    cases hsome

theorem retry_dated_iff_sample : sampleController.streaks = ∅ ∧ sampleController.config.validate = .ok () ∧
    ∀ past c, sampleController.Timeline past c → ∀ key : Key, (c.retry key ⟨1700000000, 0⟩).1.isSome = true := by
  have fresh : sampleController.streaks = ∅ := rfl
  have valid : sampleController.config.validate = .ok () := by rfl
  exact ⟨fresh, valid, (((retry_dated_iff fresh valid).2 ⟨1700000000, 0⟩).1).mp ⟨by decide, by decide⟩⟩

def patientController : Controller Unit :=
  { config := { backoffMinSecs := 10000000000000000, backoffMaxSecs := 10000000000000000 }, store := () }

/-- Its configuration is valid, and there is no date for the first retry. -/
theorem first_retry_without_date : patientController.config.validate = .ok () ∧
    ∃ c, patientController.Timeline (failingRun searchServer.key 0) c ∧
      (c.retry searchServer.key ⟨1700000000, 0⟩).1 = none := by
  refine ⟨rfl, _, .pass .start refused searchServer 0, ?_⟩
  decide

end Controller

end ServerOperator
