import ServerOperator.Controller

/-!
# Streaks of failures

How long a failing server waits is decided by its own passes alone: the delay after its `k + 1`st failure in a row
is the `k + 1`st of a fresh backoff, whatever passes and failures of other servers come in between. All streaks
are kept in one table, under texts made of namespace and name; those are told apart because a namespace has no
slash.
-/

namespace ServerOperator

/-! ## Keys as texts -/

/-- The namespace has no slash, which is what separates it from the name. -/
def Key.Plain (k : Key) : Prop := '/' ∉ k.space.toList

namespace Key

theorem toList_text (k : Key) : k.text.toList = k.space.toList ++ '/' :: k.name.toList := by
  simp [text]

theorem takeWhile_text {k : Key} (h : k.Plain) : k.text.toList.takeWhile (· ≠ '/') = k.space.toList := by
  have hspace : ∀ c ∈ k.space.toList, decide (c ≠ '/') = true := fun c hc => by
    simpa using fun e : c = '/' => h (e ▸ hc)
  rw [toList_text, List.takeWhile_append_of_pos hspace, List.takeWhile_cons_of_neg (by simp), List.append_nil]

theorem text_inj {k k' : Key} (h : k.Plain) (h' : k'.Plain) : k.text = k'.text ↔ k = k' := by
  refine ⟨fun e => ?_, congrArg text⟩
  have hspace : k.space = k'.space := String.toList_inj.mp (by rw [← takeWhile_text h, e, takeWhile_text h'])
  have hchars := congrArg String.toList e
  rw [toList_text, toList_text, hspace] at hchars
  have hname : k.name = k'.name := String.toList_inj.mp (List.cons.inj (List.append_cancel_left hchars)).2
  exact congr (congrArg mk hspace) hname

end Key

/-! ## Delays -/

namespace Backoff

def after (b : Backoff) : Nat → Backoff
  | 0 => b
  | n + 1 => (b.after n).next.2

theorem after_next (b : Backoff) : ∀ n, b.next.2.after n = b.after (n + 1)
  | 0 => rfl
  | n + 1 => congrArg (·.next.2) (b.after_next n)

theorem getElem?_upcoming : ∀ {n k : Nat} (b : Backoff), k < n → (b.upcoming n)[k]? = some (b.after k).next.1
  | n + 1, 0, b, _ => rfl
  | n + 1, k + 1, b, h => by
    rw [upcoming, List.getElem?_cons_succ, getElem?_upcoming b.next.2 (Nat.lt_of_succ_lt_succ h), after_next]

/-- No delay is above the greatest. -/
theorem current_after_start (least greatest : UInt64) : ∀ n,
    ((start least greatest).after n).current ≤ greatest ∧ ((start least greatest).after n).max = greatest
  | 0 => ⟨Std.min_le_right, rfl⟩
  | n + 1 => by
    obtain ⟨_, hmax⟩ := current_after_start least greatest n
    refine ⟨?_, hmax⟩
    show Min.min _ ((start least greatest).after n).max ≤ greatest
    rw [hmax]
    exact Std.min_le_right

end Backoff

theorem Timestamp.later?_of_le {t : Timestamp} {delay greatest : UInt64} (h : delay ≤ greatest)
    (hdate : (t.later? greatest).isSome = true) : (t.later? delay).isSome = true := by
  have hle : delay.toNat ≤ greatest.toNat := h
  unfold later? at hdate ⊢
  split at hdate
  · next hg =>
    rw [if_pos (by omega)]
    rfl
  · cases hdate

/-! ## Histories -/

inductive Mark where
  | pass (key : Key) (succeeded : Bool)
  | retry (key : Key)
  deriving DecidableEq

def Mark.key : Mark → Key
  | pass key _ => key
  | retry key => key

/-- Whether the passes of a server succeeded, the last one first. -/
def results (key : Key) (past : List Mark) : List Bool :=
  past.filterMap fun
    | .pass k succeeded => if k = key then some succeeded else none
    | .retry _ => none

def failures (key : Key) (past : List Mark) : Nat := ((results key past).takeWhile (!·)).length

def Awaits (key : Key) (past : List Mark) : Prop := past.find? (·.key = key) = some (.pass key false)

instance (key : Key) (past : List Mark) : Decidable (Awaits key past) := inferInstanceAs (Decidable (_ = _))

/-- The failures of its streak after which a server was given a delay. -/
def followed (key : Key) (past : List Mark) : Nat := failures key past - if Awaits key past then 1 else 0

section
variable {key key' : Key} {succeeded : Bool} {past : List Mark}

theorem results_pass (h : key' = key) :
    results key (.pass key' succeeded :: past) = succeeded :: results key past := by
  simp [results, h]

theorem results_of_ne {m : Mark} (h : m.key ≠ key) : results key (m :: past) = results key past := by
  cases m <;> simp_all [results, Mark.key]

theorem results_retry : results key (.retry key' :: past) = results key past := by
  simp [results]

theorem awaits_pass (h : key' = key) : Awaits key (.pass key' succeeded :: past) ↔ succeeded = false := by
  simp [Awaits, Mark.key, h]

theorem awaits_of_ne {m : Mark} (h : m.key ≠ key) : Awaits key (m :: past) ↔ Awaits key past := by
  simp [Awaits, h]

theorem not_awaits_retry (h : key' = key) : ¬ Awaits key (.retry key' :: past) := by
  simp [Awaits, Mark.key, h]

/-- The last pass of a server that awaits its delay has failed. -/
theorem failed_of_awaits (h : Awaits key past) : (results key past).head? = some false := by
  induction past with
  | nil => cases h
  | cons m past ih =>
    by_cases hm : m.key = key
    · have he : m = .pass key false := by simpa [Awaits, hm] using h
      rw [he, results_pass rfl]
      rfl
    · rw [results_of_ne hm]
      exact ih ((awaits_of_ne hm).mp h)

theorem failures_ne_zero_iff : failures key past ≠ 0 ↔ (results key past).head? = some false := by
  rw [failures]
  cases results key past with
  | nil => simp
  | cons succeeded rest => cases succeeded <;> simp

theorem followed_of_ne {m : Mark} (h : m.key ≠ key) : followed key (m :: past) = followed key past := by
  simp only [followed, failures, results_of_ne h, awaits_of_ne h]

/-- A failed pass is counted only once it is followed up. -/
theorem followed_pass (free : ¬ Awaits key past) :
    followed key (.pass key succeeded :: past) = if succeeded then 0 else followed key past := by
  cases succeeded <;> simp [followed, failures, results_pass, awaits_pass, free]

theorem failures_of_awaits (failed : Awaits key past) : failures key past = followed key past + 1 := by
  have hpos : failures key past ≠ 0 := failures_ne_zero_iff.mpr (failed_of_awaits failed)
  rw [followed, if_pos failed]
  omega

theorem followed_retry (failed : Awaits key past) : followed key (.retry key :: past) = followed key past + 1 := by
  have hfailures : failures key (.retry key :: past) = failures key past := by
    rw [failures, results_retry]
    rfl
  rw [followed, if_neg (not_awaits_retry rfl), hfailures, failures_of_awaits failed, Nat.sub_zero]

end

/-! ## The controller -/

namespace Controller

variable {σ : Type}

/-- What can become of a controller, with what happened to its servers, the last first. Passes meet stores that
answer as they like, and others may change the store between them; a failed pass is looked at once before the next
one of its server, while any number of other servers have passes and looks in between. Greatest delays are so
small that there are dates for all that follows. -/
inductive History (start : Controller σ) : List Mark → Controller σ → Prop where
  | start : History start [] start
  | change {past : List Mark} {c : Controller σ} (h : History start past c) (store : σ) :
    History start past { c with store }
  | pass {past : List Mark} {c : Controller σ} (h : History start past c) (handler : Program.Handler σ) (server : Server)
    (seconds : Float) (plain : server.key.Plain) (free : ¬ Awaits server.key past) :
    History start (.pass server.key (c.reconcile handler server seconds).1.isOk :: past)
      (c.reconcile handler server seconds).2
  | retry {past : List Mark} {c : Controller σ} (h : History start past c) (server : Server) (now : Timestamp)
    (plain : server.key.Plain) (failed : Awaits server.key past)
    (date : (now.later? start.config.backoffMaxSecs).isSome = true) :
    History start (.retry server.key :: past) (c.retry server.key now).2

/-! ## Steps -/

section
variable (c : Controller σ)

theorem reconcile_config (handler : Program.Handler σ) (server : Server) (seconds : Float) :
    (c.reconcile handler server seconds).2.config = c.config := by
  unfold reconcile
  dsimp only
  split <;> rfl

/-- A pass that succeeds ends the streak of its server, and one that fails leaves the table as it is. -/
theorem reconcile_cases (handler : Program.Handler σ) (server : Server) (seconds : Float) :
    ((c.reconcile handler server seconds).1.isOk = true ∧
        (c.reconcile handler server seconds).2.streaks = c.streaks.erase server.key.text) ∨
      ((c.reconcile handler server seconds).1.isOk = false ∧
        (c.reconcile handler server seconds).2.streaks = c.streaks) := by
  unfold reconcile
  dsimp only
  split
  · exact .inr ⟨rfl, rfl⟩
  · exact .inl ⟨rfl, rfl⟩

theorem retry_config (key : Key) (now : Timestamp) : (c.retry key now).2.config = c.config := by
  unfold retry
  dsimp only
  split <;> rfl

theorem retry_streaks (key : Key) (now : Timestamp) : (c.retry key now).2.streaks =
    c.streaks.insert key.text ⟨(c.streak key).backoff.next.2, (c.streak key).errors + 1⟩ := by
  unfold retry
  dsimp only
  split <;> rfl

/-- A server without an entry starts afresh. -/
theorem streak_backoff (key : Key) : (c.streak key).backoff =
    ((c.streaks.get? key.text).map (·.backoff)).getD (.start c.config.backoffMinSecs c.config.backoffMaxSecs) := by
  unfold streak
  cases c.streaks.get? key.text <;> rfl

theorem retry_delay (key : Key) (now : Timestamp)
    (hdate : (now.later? (c.streak key).backoff.next.1).isSome = true) :
    (c.retry key now).1 = some (.ofSecs (c.streak key).backoff.next.1) := by
  obtain ⟨date, hdate⟩ := Option.isSome_iff_exists.mp hdate
  have htally : (c.tally .reconciliationErrors).streak key = c.streak key := rfl
  unfold retry
  dsimp only
  rw [htally, hdate]

end

/-! ## What the table holds -/

structure Follows (start : Controller σ) (past : List Mark) (c : Controller σ) : Prop where
  config : c.config = start.config
  streaks : ∀ key : Key, key.Plain → (c.streaks.get? key.text).map (·.backoff) =
    if followed key past = 0 then none
    else some ((Backoff.start start.config.backoffMinSecs start.config.backoffMaxSecs).after (followed key past))

section
variable {start c : Controller σ} {past : List Mark}

theorem Follows.backoff (h : Follows start past c) {key : Key} (hkey : key.Plain) : (c.streak key).backoff =
    (Backoff.start start.config.backoffMinSecs start.config.backoffMaxSecs).after (followed key past) := by
  rw [streak_backoff, h.streaks key hkey, h.config]
  split
  · next hzero => rw [hzero]; rfl
  · rfl

theorem Follows.pass (h : Follows start past c) (handler : Program.Handler σ) {server : Server} (seconds : Float)
    (plain : server.key.Plain) (free : ¬ Awaits server.key past) :
    Follows start (.pass server.key (c.reconcile handler server seconds).1.isOk :: past)
      (c.reconcile handler server seconds).2 where
  config := (c.reconcile_config ..).trans h.config
  streaks := fun key hkey => by
    by_cases hne : server.key = key
    · subst hne
      rcases c.reconcile_cases handler server seconds with ⟨hok, hstreaks⟩ | ⟨hok, hstreaks⟩ <;>
        rw [hok, hstreaks, followed_pass free]
      · simp
      · exact h.streaks _ hkey
    · have htext : server.key.text ≠ key.text := mt (Key.text_inj plain hkey).mp hne
      rw [followed_of_ne (show (Mark.pass server.key _).key ≠ key from hne), ← h.streaks key hkey]
      rcases c.reconcile_cases handler server seconds with ⟨_, hstreaks⟩ | ⟨_, hstreaks⟩ <;> rw [hstreaks]
      rw [Table.get?_erase, if_neg htext]

theorem Follows.retry (h : Follows start past c) {server : Server} (now : Timestamp)
    (plain : server.key.Plain) (failed : Awaits server.key past) :
    Follows start (.retry server.key :: past) (c.retry server.key now).2 where
  config := (c.retry_config ..).trans h.config
  streaks := fun key hkey => by
    rw [retry_streaks, Table.get?_insert]
    by_cases hne : server.key = key
    · subst hne
      rw [if_pos rfl, followed_retry failed, if_neg (Nat.succ_ne_zero _), Option.map_some, h.backoff plain]
      rfl
    · have htext : server.key.text ≠ key.text := mt (Key.text_inj plain hkey).mp hne
      rw [if_neg htext, followed_of_ne (show (Mark.retry server.key).key ≠ key from hne), h.streaks key hkey]

theorem History.follows (h : start.History past c) (hfresh : start.streaks = ∅) : Follows start past c := by
  induction h with
  | start =>
    refine ⟨rfl, fun key _ => ?_⟩
    rw [hfresh]
    rfl
  | change h store ih => exact ⟨ih.config, ih.streaks⟩
  | pass h handler server seconds plain free ih => exact ih.pass handler seconds plain free
  | retry h server now plain failed date ih => exact ih.retry now plain failed

end

/-- After any history, a failed server is given the `k + 1`st delay of a fresh backoff, where `k` failures of its own
came before this one since it last succeeded; and among the servers whose failures were followed up, those in
the table are the ones whose last pass failed. -/
theorem delay_follows_own_streak {start c : Controller σ} {past : List Mark} (h : start.History past c)
    (hfresh : start.streaks = ∅) :
    (∀ (server : Server) (now : Timestamp), server.key.Plain → Awaits server.key past →
      (now.later? start.config.backoffMaxSecs).isSome = true →
      ∃ k delay, failures server.key past = k + 1 ∧
        ((Backoff.start start.config.backoffMinSecs start.config.backoffMaxSecs).upcoming (k + 1))[k]? = some delay ∧
        (c.retry server.key now).1 = some (.ofSecs delay)) ∧
    ∀ key : Key, key.Plain → ¬ Awaits key past →
      ((c.streaks.get? key.text).isSome = true ↔ (results key past).head? = some false) := by
  have hf := h.follows hfresh
  constructor
  · intro server now plain failed hdate
    have hbackoff := hf.backoff plain
    have hle := (Backoff.current_after_start start.config.backoffMinSecs start.config.backoffMaxSecs
      (followed server.key past)).1
    have hget := Backoff.getElem?_upcoming (Backoff.start start.config.backoffMinSecs start.config.backoffMaxSecs)
      (Nat.lt_succ_self (followed server.key past))
    refine ⟨followed server.key past, _, failures_of_awaits failed, hget, ?_⟩
    rw [← hbackoff] at hle ⊢
    exact c.retry_delay server.key now (Timestamp.later?_of_le hle hdate)
  · intro key plain free
    rw [← failures_ne_zero_iff, ← Option.isSome_map, hf.streaks key plain, followed, if_neg free, Nat.sub_zero]
    by_cases hzero : failures key past = 0 <;> simp [hzero]

def unreachable : Program.Handler Unit := fun s _ => (.error ⟨"connection refused", []⟩, s)

def sampleController : Controller Unit := { config := {}, store := () }
def searchServer : Server := { metadata := { name := some "search", ns := some "tools" } }
def fetchServer : Server := { metadata := { name := some "fetch", ns := some "tools" } }

def alternating : List Mark :=
  [.pass searchServer.key false, .retry searchServer.key, .retry fetchServer.key, .pass searchServer.key false,
   .pass fetchServer.key false, .retry searchServer.key, .pass searchServer.key false]

/-- The first waits for 10 s, the third of 5 s, 5 s, 10 s. -/
theorem delay_follows_own_streak_sample : ∃ c, sampleController.History alternating c ∧
    (c.retry searchServer.key ⟨0, 0⟩).1 = some (.ofSecs 10) := by
  have search : searchServer.key.Plain := show '/' ∉ "tools".toList by decide
  have fetch : fetchServer.key.Plain := search
  have date : ((⟨0, 0⟩ : Timestamp).later? sampleController.config.backoffMaxSecs).isSome = true := by decide
  obtain ⟨c, h⟩ : ∃ c, sampleController.History alternating c := by
    have h : sampleController.History [] sampleController := .start
    have h := (h.pass unreachable searchServer 0 search (by decide)).retry searchServer ⟨0, 0⟩ search rfl date
    have h := h.pass unreachable fetchServer 0 fetch (by decide)
    have h := h.pass unreachable searchServer 0 search (by decide)
    have h := h.retry fetchServer ⟨0, 0⟩ fetch rfl date
    have h := h.retry searchServer ⟨0, 0⟩ search rfl date
    exact ⟨_, h.pass unreachable searchServer 0 search (by decide)⟩
  obtain ⟨k, delay, hk, hdelay, hretry⟩ := (delay_follows_own_streak h rfl).1 searchServer ⟨0, 0⟩ search rfl date
  have hfailures : failures searchServer.key alternating = 3 := by decide
  cases hfailures.symm.trans hk
  cases hdelay
  exact ⟨c, h, hretry⟩

end Controller

end ServerOperator
