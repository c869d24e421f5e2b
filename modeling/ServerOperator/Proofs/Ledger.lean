import Mathlib.Algebra.GroupWithZero.Nat
import ServerOperator.Proofs.Accounts

/-!
# Counters over a course of events

What a controller does over any course of passes and looks at failed ones is what its counters say: every pass is
requeued for one reason, every write of a child and every status is in the logs of the store, and every rejection
ended a pass. Each event adds its counters to those counted so far, so the laws are sums over events.
-/

namespace ServerOperator

/-! ## Counting -/

namespace Metrics

def requeued (m : Metrics) : Nat := ((m.counts.entries.filter (·.1.isRequeue)).map (·.2)).sum

variable (m : Metrics)

theorem incrementAll_cons (k : Counter) (cs : List Counter) :
    m.incrementAll (k :: cs) = (m.increment k).incrementAll cs := rfl

theorem incrementAll_append (cs cs' : List Counter) :
    m.incrementAll (cs ++ cs') = (m.incrementAll cs).incrementAll cs' := List.foldl_append

theorem count_increment (k k' : Counter) : (m.increment k).count k' = m.count k' + [k].count k' := by
  rw [count, increment, Table.get?_insert, List.count_singleton]
  by_cases h : k = k'
  · subst h
    simp
  · simp [h, count]

theorem requeued_increment (k : Counter) : (m.increment k).requeued = m.requeued + [k].countP Counter.isRequeue := by
  have hput (l : List (Counter × Nat)) :
      (((Table.put k ((Table.find? k l).getD 0 + 1) l).filter (·.1.isRequeue)).map (·.2)).sum =
        ((l.filter (·.1.isRequeue)).map (·.2)).sum + [k].countP Counter.isRequeue := by
    induction l with
    | nil => cases hk : k.isRequeue <;> simp [Table.put, Table.find?, hk]
    | cons e l ih =>
      by_cases he : e.1 = k
      · subst he
        cases hk : e.1.isRequeue with
        | false => simp [Table.put, Table.find?, hk]
        | true =>
          simp only [Table.put, Table.find?, if_true, hk, Option.getD_some, List.filter_cons, List.map_cons,
            List.sum_cons, List.countP_singleton]
          omega
      · rw [Table.put, Table.find?, if_neg he, if_neg he, List.filter_cons, List.filter_cons]
        split
        · rw [List.map_cons, List.map_cons, List.sum_cons, List.sum_cons, ih, Nat.add_assoc]
        · exact ih
  exact hput m.counts.entries

theorem count_incrementAll (cs : List Counter) (k : Counter) :
    (m.incrementAll cs).count k = m.count k + cs.count k := by
  induction cs generalizing m with
  | nil => rfl
  | cons c cs ih =>
    rw [incrementAll_cons, ih, count_increment, Nat.add_assoc, ← List.count_append]
    rfl

theorem requeued_incrementAll (cs : List Counter) :
    (m.incrementAll cs).requeued = m.requeued + cs.countP Counter.isRequeue := by
  induction cs generalizing m with
  | nil => rfl
  | cons c cs ih =>
    rw [incrementAll_cons, ih, requeued_increment, Nat.add_assoc, ← List.countP_append]
    rfl

end Metrics

/-! ## Courses -/

open MemoryStore (handler logs_run)

inductive Deed where
  | pass (key : Key) (calls : List CallRecord) (result : Except OperatorError Duration)
  | retry (key : Key)

namespace Deed

def isPass : Deed → Bool
  | pass .. => true
  | retry _ => false

def isRejection : Deed → Bool
  | pass _ _ (.error e) => e.isValidation
  | _ => false

def failed? : Deed → Option Key
  | pass key _ (.error _) => some key
  | _ => none

def retried? : Deed → Option Key
  | pass .. => none
  | retry key => some key

/-- The calls of a pass after the one that fetches the server. -/
def later : Deed → List CallRecord
  | pass _ calls _ => calls.tail
  | retry _ => []

end Deed

namespace Controller

/-- What can become of a controller, with what it was called for, the last first. Others may do with the objects of
the store, its versions and its failures what they like, but not with its logs. A look that finds no date for the
next pass does not return. -/
inductive Course (start : Controller MemoryStore) : List Deed → Controller MemoryStore → Prop where
  | start : Course start [] start
  | change {past : List Deed} {c : Controller MemoryStore} (h : Course start past c) (store : MemoryStore)
    (writes : store.writes = c.store.writes) (statusPatches : store.statusPatches = c.store.statusPatches) :
    Course start past { c with store }
  | pass {past : List Deed} {c : Controller MemoryStore} (h : Course start past c) (server : Server) (seconds : Float) :
    Course start
      (.pass server.key ((pass server.key).run.calls handler c.store) (c.reconcile handler server seconds).1 :: past)
      (c.reconcile handler server seconds).2
  | retry {past : List Deed} {c : Controller MemoryStore} (h : Course start past c) (key : Key) (now : Timestamp)
    (returns : (c.retry key now).1.isSome = true) : Course start (.retry key :: past) (c.retry key now).2

def FollowedUp (past : List Deed) : Prop := (past.filterMap Deed.retried?).Perm (past.filterMap Deed.failed?)

instance (past : List Deed) : Decidable (FollowedUp past) := inferInstanceAs (Decidable (List.Perm _ _))

end Controller

/-! ## Entries -/

def callsOf (past : List Deed) : List CallRecord := past.reverse.flatMap Deed.later

theorem callsOf_cons (d : Deed) (past : List Deed) : callsOf (d :: past) = callsOf past ++ d.later := by
  simp [callsOf]

structure Entered (past : List Deed) (counted : List Counter) : Prop where
  balanced : Balanced (callsOf past) (counted.filter fun k => !k.isOuter) (past.countP Deed.isRejection)
  passes : counted.count .reconciliations = past.countP Deed.isPass
  looks : counted.count .reconciliationErrors = (past.filterMap Deed.retried?).length
  backoffs : counted.count (.requeues "error-backoff") = (past.filterMap Deed.retried?).length
  /-- A pass that does not fail is requeued, and so is a failed one after a look at it. -/
  requeues : counted.countP Counter.isRequeue + (past.filterMap Deed.failed?).length =
    past.countP Deed.isPass + (past.filterMap Deed.retried?).length

namespace Entered

theorem nil : Entered [] [] := ⟨.nil, rfl, rfl, rfl, rfl⟩

theorem cons {past : List Deed} {counted counted' : List Counter} {d : Deed} (h : Entered past counted)
    (h' : Entered [d] counted') : Entered (d :: past) (counted ++ counted') where
  balanced := by
    have hd : callsOf [d] = d.later := by simp [callsOf]
    rw [callsOf_cons, List.filter_append, ← hd]
    have hbalanced := h.balanced.append h'.balanced
    rwa [Nat.add_comm, ← List.countP_append] at hbalanced
  passes := by
    rw [List.count_append, h.passes, h'.passes, Nat.add_comm, ← List.countP_append]
    rfl
  looks := by
    rw [List.count_append, h.looks, h'.looks, Nat.add_comm, ← List.length_append, ← List.filterMap_append]
    rfl
  backoffs := by
    rw [List.count_append, h.backoffs, h'.backoffs, Nat.add_comm, ← List.length_append, ← List.filterMap_append]
    rfl
  requeues := by
    have hsum := h.requeues
    have hsum' := h'.requeues
    rw [List.countP_append, ← List.singleton_append, List.filterMap_append, List.filterMap_append, List.countP_append,
      List.length_append, List.length_append]
    omega

theorem retry (key : Key) : Entered [.retry key] [.reconciliationErrors, .requeues "error-backoff"] where
  balanced := .nil
  passes := rfl
  looks := rfl
  backoffs := rfl
  requeues := rfl

end Entered

def closing : Except OperatorError Outcome → List Counter
  | .ok outcome => [.requeues outcome.label]
  | .error _ => []

theorem Outcome.label_ne (o : Outcome) : o.label ≠ "error-backoff" := by
  cases o <;> simp [label]

/-- A pass is counted once, and once more by when it is to be repeated, if it did not fail. -/
theorem Entered.pass (key : Key) (first : CallRecord) {rest : List CallRecord} {counted : List Counter}
    {result : Except OperatorError Outcome} (h : Balanced rest counted (rejectionsBehind rejections result))
    (delay : Outcome → Duration) :
    Entered [.pass key (first :: rest) (result.map delay)] (.reconciliations :: (counted ++ closing result)) := by
  have hcalls : callsOf [.pass key (first :: rest) (result.map delay)] = rest := List.append_nil rest
  cases result with
  | ok outcome =>
    refine ⟨?_, ?_, ?_, ?_, ?_⟩
    · rw [hcalls, List.filter_cons_of_neg (by decide), List.filter_append, h.filter_inner]
      exact (List.append_nil counted).symm ▸ h
    · rw [List.count_cons, List.count_append, h.count_outer rfl]
      rfl
    · rw [List.count_cons, List.count_append, h.count_outer rfl]
      rfl
    · rw [List.count_cons, List.count_append, h.count_outer rfl, closing, List.count_singleton]
      rw [if_neg (by simpa using outcome.label_ne)]
      rfl
    · rw [List.countP_cons, List.countP_append, h.countP_isRequeue]
      rfl
  | error e =>
    rw [closing, List.append_nil]
    refine ⟨?_, ?_, ?_, ?_, ?_⟩
    · rw [hcalls, List.filter_cons_of_neg (by decide), h.filter_inner]
      cases he : e.isValidation <;> simpa [rejections, he, Except.map, Deed.isRejection] using h
    · rw [List.count_cons, h.count_outer rfl]
      rfl
    · rw [List.count_cons, h.count_outer rfl]
      rfl
    · rw [List.count_cons, h.count_outer rfl]
      rfl
    · rw [List.countP_cons, h.countP_isRequeue]
      rfl

/-! ## Steps -/

namespace Controller

section
variable (c : Controller MemoryStore)

/-- A pass of the controller is a run of the pass, whose counters it adds to its own. -/
theorem reconcile_spec (server : Server) (seconds : Float)
    {run : Program.Run MemoryStore (Except OperatorError Outcome)}
    (hrun : (ServerOperator.pass server.key).run.run handler c.store = run) :
    (c.reconcile handler server seconds).1 = run.value.map (Outcome.delay c.config) ∧
      (c.reconcile handler server seconds).2.store = run.state ∧
      (c.reconcile handler server seconds).2.metrics.counts =
        (c.metrics.incrementAll (.reconciliations :: (run.counted ++ closing run.value))).counts := by
  rw [Metrics.incrementAll_cons, Metrics.incrementAll_append]
  have hstore : (c.tally .reconciliations).store = c.store := rfl
  unfold reconcile perform
  rw [hstore, hrun]
  obtain ⟨value, state, counted⟩ := run
  cases value <;> exact ⟨rfl, rfl, rfl⟩

theorem retry_spec {key : Key} {now : Timestamp} (returns : (c.retry key now).1.isSome = true) :
    (c.retry key now).2.store = c.store ∧ (c.retry key now).2.metrics =
      c.metrics.incrementAll [.reconciliationErrors, .requeues "error-backoff"] := by
  unfold retry at returns ⊢
  dsimp only at returns ⊢
  split
  · next h => rw [h] at returns; cases returns
  · exact ⟨rfl, rfl⟩

end

structure Ledger (start : Controller MemoryStore) (past : List Deed) (c : Controller MemoryStore)
    (counted : List Counter) : Prop where
  entered : Entered past counted
  counts : c.metrics.counts = (start.metrics.incrementAll counted).counts
  writes : c.store.writes = start.store.writes ++ (callsOf past).filterMap CallRecord.entry?
  statusPatches : c.store.statusPatches = start.store.statusPatches ++ (callsOf past).filterMap CallRecord.status?

section
variable {start c : Controller MemoryStore} {past : List Deed} {counted : List Counter}

theorem incrementAll_congr {m m' : Metrics} (h : m.counts = m'.counts) (cs : List Counter) :
    (m.incrementAll cs).counts = (m'.incrementAll cs).counts := by
  induction cs generalizing m m' with
  | nil => exact h
  | cons k cs ih =>
    refine ih ?_
    rw [Metrics.increment, Metrics.increment, Metrics.count, Metrics.count, h]

theorem Ledger.counts_append (h : Ledger start past c counted) {c' : Controller MemoryStore} {cs : List Counter}
    (hc : c'.metrics.counts = (c.metrics.incrementAll cs).counts) :
    c'.metrics.counts = (start.metrics.incrementAll (counted ++ cs)).counts := by
  rw [hc, Metrics.incrementAll_append]
  exact incrementAll_congr h.counts cs

theorem Ledger.pass (h : Ledger start past c counted) (server : Server) (seconds : Float) : ∃ counted',
    Ledger start
      (.pass server.key ((ServerOperator.pass server.key).run.calls handler c.store)
        (c.reconcile handler server seconds).1 :: past)
      (c.reconcile handler server seconds).2 counted' := by
  obtain ⟨hresult, hstore, hcounts⟩ := c.reconcile_spec server seconds rfl
  obtain ⟨hwrites, hpatches⟩ := logs_run (ServerOperator.pass server.key).run c.store
  obtain ⟨fetched, rest, hcalls, hbalanced⟩ := (pass_balances server.key).run handler c.store
  have hentered := Entered.pass server.key ⟨.get .server server.key, fetched⟩ hbalanced (Outcome.delay c.config)
  -- The read that fetches the server is in neither log.
  rw [hcalls] at hwrites hpatches
  refine ⟨_, h.entered.cons (hresult ▸ hcalls ▸ hentered), h.counts_append hcounts, ?_, ?_⟩
  · rw [hstore, hwrites, h.writes, callsOf_cons, List.filterMap_append, List.append_assoc]
    exact hcalls ▸ rfl
  · rw [hstore, hpatches, h.statusPatches, callsOf_cons, List.filterMap_append, List.append_assoc]
    exact hcalls ▸ rfl

theorem Ledger.retry (h : Ledger start past c counted) {key : Key} {now : Timestamp}
    (returns : (c.retry key now).1.isSome = true) :
    ∃ counted', Ledger start (.retry key :: past) (c.retry key now).2 counted' := by
  obtain ⟨hstore, hmetrics⟩ := c.retry_spec returns
  refine ⟨_, h.entered.cons (.retry key), h.counts_append (congrArg Metrics.counts hmetrics), ?_, ?_⟩
  · rw [hstore, h.writes, callsOf_cons, Deed.later, List.append_nil]
  · rw [hstore, h.statusPatches, callsOf_cons, Deed.later, List.append_nil]

theorem Course.ledger (h : Course start past c) : ∃ counted, Ledger start past c counted := by
  induction h with
  | start => exact ⟨[], .nil, rfl, (List.append_nil _).symm, (List.append_nil _).symm⟩
  | change _ store writes statusPatches ih =>
    obtain ⟨counted, ih⟩ := ih
    exact ⟨counted, ih.entered, ih.counts, writes.trans ih.writes, statusPatches.trans ih.statusPatches⟩
  | pass _ server seconds ih =>
    obtain ⟨counted, ih⟩ := ih
    exact ih.pass server seconds
  | retry _ key now returns ih =>
    obtain ⟨counted, ih⟩ := ih
    exact ih.retry returns

/-! ## The laws -/

def grown (start c : Controller MemoryStore) (k : Counter) : Nat := c.metrics.count k - start.metrics.count k

def newWrites (start c : Controller MemoryStore) : List WriteRecord := c.store.writes.drop start.store.writes.length

def newStatusPatches (start c : Controller MemoryStore) : List ServerStatus :=
  c.store.statusPatches.drop start.store.statusPatches.length

/-- The growth of the counters is what was done. -/
structure Tallied (start : Controller MemoryStore) (past : List Deed) (c : Controller MemoryStore) : Prop where
  reconciliations : grown start c .reconciliations = past.countP Deed.isPass
  requeues : grown start c .reconciliations = c.metrics.requeued - start.metrics.requeued
  errors : grown start c .reconciliationErrors = (past.filterMap Deed.failed?).length
  backoffs : grown start c .reconciliationErrors = grown start c (.requeues "error-backoff")
  created : ∀ child : Child, grown start c (.resourceOperations child.resource "create") =
    writesOf .create child.kind (newWrites start c)
  updated : ∀ child : Child, grown start c (.resourceOperations child.resource "update") =
    writesOf .replace child.kind (newWrites start c)
  written : grown start c (.statusUpdates "written") = (newStatusPatches start c).length
  attempted : grown start c (.statusUpdates "written") + grown start c (.statusUpdates "skipped") +
    grown start c (.statusUpdates "error") = statusUpdates (callsOf past)
  rejected : grown start c .validationFailures = past.countP Deed.isRejection

theorem Ledger.grown (h : Ledger start past c counted) (k : Counter) : grown start c k = counted.count k := by
  have hcount : c.metrics.count k = start.metrics.count k + counted.count k := by
    rw [← Metrics.count_incrementAll, Metrics.count, Metrics.count, h.counts]
  rw [Controller.grown, hcount, Nat.add_sub_cancel_left]

theorem Ledger.requeued (h : Ledger start past c counted) :
    c.metrics.requeued = start.metrics.requeued + counted.countP Counter.isRequeue := by
  rw [← Metrics.requeued_incrementAll, Metrics.requeued, Metrics.requeued, h.counts]

theorem Ledger.newWrites (h : Ledger start past c counted) :
    newWrites start c = (callsOf past).filterMap CallRecord.entry? := by
  rw [Controller.newWrites, h.writes, List.drop_left]

theorem Ledger.newStatusPatches (h : Ledger start past c counted) :
    newStatusPatches start c = (callsOf past).filterMap CallRecord.status? := by
  rw [Controller.newStatusPatches, h.statusPatches, List.drop_left]

theorem count_filter_inner {k : Counter} (hk : k.isOuter = false) :
    (counted.filter fun k => !k.isOuter).count k = counted.count k :=
  List.count_filter (by rw [hk]; rfl)

/-- In every course in which each failed pass was followed by one look at it, the counters account for every pass,
every requeue, every write of a child, every status and every rejection. -/
theorem metrics_account_for_every_action (h : Course start past c) (followed : FollowedUp past) :
    Tallied start past c := by
  obtain ⟨counted, h⟩ := h.ledger
  have hlooks : (past.filterMap Deed.retried?).length = (past.filterMap Deed.failed?).length := followed.length_eq
  have hbalanced := h.entered.balanced
  constructor
  · rw [h.grown, h.entered.passes]
  · have hsum := h.entered.requeues
    rw [h.grown, h.entered.passes, h.requeued]
    omega
  · rw [h.grown, h.entered.looks, hlooks]
  · rw [h.grown, h.grown, h.entered.looks, h.entered.backoffs]
  · intro child
    rw [h.grown, h.newWrites, ← hbalanced.created child, count_filter_inner rfl]
  · intro child
    rw [h.grown, h.newWrites, ← hbalanced.updated child, count_filter_inner rfl]
  · rw [h.grown, h.newStatusPatches, ← hbalanced.written, count_filter_inner rfl]
  · rw [h.grown, h.grown, h.grown, ← hbalanced.attempted, count_filter_inner rfl, count_filter_inner rfl,
      count_filter_inner rfl]
  · rw [h.grown, ← hbalanced.rejected, count_filter_inner rfl]

end

def blockedController : Controller MemoryStore :=
  { config := {}, store := sampleStore.failAfter Kind.ingress.name .create 0 }

def delayedController : Controller MemoryStore :=
  ((blockedController.reconcile handler sampleServer 0).2.retry sampleServer.key ⟨0, 0⟩).2

/-- Two passes are counted and one failure, and the Ingress only where it was created. -/
theorem metrics_account_for_every_action_sample : ∃ past c, blockedController.Course past c ∧ FollowedUp past ∧
    grown blockedController c .reconciliations = 2 ∧ grown blockedController c (.requeues "error-backoff") = 1 ∧
    grown blockedController c (.resourceOperations "ingress" "create") = 1 := by
  have h : blockedController.Course [] blockedController := .start
  have h := (h.pass sampleServer 0).retry sampleServer.key ⟨0, 0⟩ (by decide)
  have h := (h.change delayedController.store.clearFailures rfl rfl).pass sampleServer 0
  have htallied := metrics_account_for_every_action h (by decide)
  refine ⟨_, _, h, by decide, htallied.reconciliations, ?_, ?_⟩
  · rw [← htallied.backoffs, htallied.errors]
    decide
  · refine (htallied.created .ingress).trans ?_
    decide

end Controller

end ServerOperator
