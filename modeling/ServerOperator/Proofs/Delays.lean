import ServerOperator.Proofs.Deadlines

/-!
# Courses of a backoff

Whatever is asked of a backoff, and in whatever order: what it has given since it was made or last reset are the delays
of a fresh one from the first on, and these are the Fibonacci numbers times the least delay, cut at the greatest. They
never fall, and sums that meet the end of the number range are cut at the greatest delay anyhow.
-/

namespace ServerOperator

namespace Backoff

/-! ## Calls and answers -/

inductive Call where
  | seconds
  | duration
  | reset
  deriving DecidableEq

inductive Answer where
  | seconds (n : UInt64)
  | duration (d : Duration)
  | done
  deriving DecidableEq

def ask (b : Backoff) : Call → Answer × Backoff
  | .seconds => (.seconds b.next.1, b.next.2)
  | .duration => (.duration b.nextDuration.1, b.nextDuration.2)
  | .reset => (.done, b.reset)

def answers (b : Backoff) : List Call → List Answer
  | [] => []
  | c :: calls => (b.ask c).1 :: (b.ask c).2.answers calls

def run (b : Backoff) (calls : List Call) : Backoff := calls.foldl (fun b c => (b.ask c).2) b

def Call.count (n : Nat) : Call → Nat
  | seconds | duration => n + 1
  | reset => 0

def sinceReset (calls : List Call) : Nat := calls.foldl Call.count 0

def Answer.collect (given : List Duration) : Answer → List Duration
  | seconds n => given ++ [.ofSecs n]
  | duration d => given ++ [d]
  | done => []

def recent (answers : List Answer) : List Duration := answers.foldl Answer.collect []

/-! ## A fresh backoff -/

theorem upcoming_succ (b : Backoff) (n : Nat) : b.upcoming (n + 1) = b.upcoming n ++ [(b.after n).current] := by
  induction n generalizing b with
  | zero => rfl
  | succ n ih =>
    rw [upcoming, ih, after_next]
    rfl

theorem upcoming_eq_map (b : Backoff) (n : Nat) : b.upcoming n = (List.range n).map fun k => (b.after k).current := by
  induction n with
  | zero => rfl
  | succ n ih => rw [upcoming_succ, ih, List.range_succ, List.map_append, List.map_singleton]

section
variable (least greatest : UInt64)

theorem toNat_current (n : Nat) : ((start least greatest).after n).current.toNat =
    Min.min (Nat.fib (n + 1) * Min.min least.toNat greatest.toNat) greatest.toNat := by
  rw [(after_start least greatest n).2, toNat_min]

theorem current_mono {k n : Nat} (h : k ≤ n) :
    ((start least greatest).after k).current ≤ ((start least greatest).after n).current := by
  rw [UInt64.le_iff_toNat_le, toNat_current, toNat_current]
  have hfib : Nat.fib (k + 1) ≤ Nat.fib (n + 1) := Nat.fib_mono (Nat.succ_le_succ h)
  exact min_le_min_right _ (Nat.mul_le_mul_right _ hfib)

theorem least_le_current (n : Nat) : Min.min least greatest ≤ ((start least greatest).after n).current :=
  current_mono least greatest (Nat.zero_le n)

/-- A reset leaves nothing of the delays that were taken. -/
theorem reset_after_start (n : Nat) : ((start least greatest).after n).reset = start least greatest := by
  induction n with
  | zero => rfl
  | succ n ih => exact ih

/-! ## Its courses -/

theorem ask_after_start (n : Nat) (c : Call) :
    (((start least greatest).after n).ask c).2 = (start least greatest).after (c.count n) := by
  cases c with
  | seconds => rfl
  | duration => rfl
  | reset => exact reset_after_start least greatest n

theorem collect_ask_after_start (n : Nat) (c : Call) :
    (((start least greatest).after n).ask c).1.collect (((start least greatest).upcoming n).map .ofSecs) =
      ((start least greatest).upcoming (c.count n)).map .ofSecs := by
  cases c
  case reset => rfl
  all_goals
    show _ = ((start least greatest).upcoming (n + 1)).map Duration.ofSecs
    rw [upcoming_succ, List.map_append]
    rfl

theorem run_after_start (calls : List Call) (n : Nat) :
    ((start least greatest).after n).run calls = (start least greatest).after (calls.foldl Call.count n) := by
  induction calls generalizing n with
  | nil => rfl
  | cons c calls ih =>
    show ((((start least greatest).after n).ask c).2).run calls = _
    rw [ask_after_start, ih]
    rfl

-- `recent` starts with nothing collected; the induction needs any point of a course, with what was collected there.
theorem collect_answers_after_start (calls : List Call) (n : Nat) :
    (((start least greatest).after n).answers calls).foldl Answer.collect
        (((start least greatest).upcoming n).map .ofSecs) =
      ((start least greatest).upcoming (calls.foldl Call.count n)).map .ofSecs := by
  induction calls generalizing n with
  | nil => rfl
  | cons c calls ih =>
    rw [answers, List.foldl_cons, List.foldl_cons, collect_ask_after_start, ask_after_start, ih]

end

/-- A sum beyond all numbers is beyond the greatest delay. -/
theorem toNat_current_next (b : Backoff) :
    b.next.2.current.toNat = Min.min (b.previous.toNat + b.current.toNat) b.max.toNat := by
  show (Min.min (saturatingAdd _ _) _).toNat = _
  rw [toNat_min, toNat_saturatingAdd]
  have hlt := b.max.toNat_lt_size
  omega

/-- After any calls, the delays given since the last reset are as many as were asked for, and the `k + 1`st of them is the
`k + 1`st Fibonacci number times the least delay, cut at the greatest; so they never fall, keep between the least and the
greatest, and stay at the greatest. The next delay is the sum of the last two cut at the greatest, whatever the range of
numbers. -/
theorem delays_in_closed_form (least greatest : UInt64) (calls : List Call) :
    (∃ delays : List UInt64,
      recent ((start least greatest).answers calls) = delays.map .ofSecs ∧
      delays.map (·.toNat) = (List.range (sinceReset calls)).map (fun k =>
        Min.min (Nat.fib (k + 1) * Min.min least.toNat greatest.toNat) greatest.toNat) ∧
      delays.Pairwise (· ≤ ·) ∧ (∀ delay ∈ delays, Min.min least greatest ≤ delay ∧ delay ≤ greatest) ∧
      delays.Pairwise fun earlier later => earlier = greatest → later = greatest) ∧
    let b := (start least greatest).run calls
    b.next.2.current.toNat = Min.min (b.previous.toNat + b.current.toNat) greatest.toNat := by
  have hdelays := upcoming_eq_map (start least greatest) (sinceReset calls)
  have hmono : ((start least greatest).upcoming (sinceReset calls)).Pairwise (· ≤ ·) := by
    rw [hdelays]
    exact List.pairwise_map.mpr (List.pairwise_lt_range.imp fun h => current_mono least greatest (Nat.le_of_lt h))
  have hbounds : ∀ delay ∈ (start least greatest).upcoming (sinceReset calls),
      Min.min least greatest ≤ delay ∧ delay ≤ greatest := by
    rw [hdelays]
    exact List.forall_mem_map.mpr fun k _ =>
      ⟨least_le_current least greatest k, (current_after_start least greatest k).1⟩
  refine ⟨⟨_, collect_answers_after_start least greatest calls 0, ?_, hmono, hbounds, ?_⟩, ?_⟩
  · show ((start least greatest).upcoming (sinceReset calls)).map _ = _
    rw [hdelays, List.map_map]
    exact List.map_congr_left fun k _ => toNat_current least greatest k
  · refine hmono.imp_of_mem fun _ hlater hle he => ?_
    exact UInt64.le_antisymm (hbounds _ hlater).2 (he ▸ hle)
  · have hrun : (start least greatest).run calls = _ := run_after_start least greatest calls 0
    have hmax := (current_after_start least greatest (sinceReset calls)).2
    show ((start least greatest).run calls).next.2.current.toNat = _
    rw [toNat_current_next, hrun]
    exact congrArg (fun max : UInt64 => Min.min _ max.toNat) hmax

/-- Twice half of the number range is one beyond it, and the third delay is the greatest number. -/
theorem delays_in_closed_form_sample : ∃ delays : List UInt64,
    recent ((start 0x8000000000000000 0xFFFFFFFFFFFFFFFF).answers [.seconds, .reset, .duration, .seconds, .seconds]) =
        delays.map .ofSecs ∧
      delays.map (·.toNat) = [2 ^ 63, 2 ^ 63, 2 ^ 64 - 1] := by
  obtain ⟨⟨delays, hrecent, hclosed, _⟩, _⟩ :=
    delays_in_closed_form 0x8000000000000000 0xFFFFFFFFFFFFFFFF [.seconds, .reset, .duration, .seconds, .seconds]
  exact ⟨delays, hrecent, hclosed.trans (by decide)⟩

example : recent ((start 60 10).answers [.duration, .seconds, .reset, .duration]) = [.ofSecs 10] := by decide

end Backoff

end ServerOperator
